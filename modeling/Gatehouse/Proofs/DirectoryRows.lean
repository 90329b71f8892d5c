import Gatehouse.Background.AdminCheck
/-!
# Rows of the user directory

A directory files every row under the row's own key. Saving and evaluating keep it so, and they keep the
identifier that a key was given first. What was last evaluated for a user is read through the identifier,
and only an evaluation of that user changes it.
-/

namespace Gatehouse.UserDirectory

open Background (AdminCheck)

variable {d : UserDirectory} {k : String × String} {u row : LocalUser} {id id' : ObjectId}

/-- Every row stands under its own key, and no key stands twice. -/
structure Filed (d : UserDirectory) : Prop where
  nodup : d.rows.keys.Nodup
  keyed : ∀ e ∈ d.rows.entries, e.2.key = e.1

theorem filed_empty : Filed ⟨∅⟩ := by
  constructor
  · exact List.nodup_nil
  · intro e he
    cases he

theorem Filed.insert (h : d.Filed) (hk : row.key = k) : Filed ⟨d.rows.insert k row⟩ := by
  constructor
  · exact Table.nodup_keys_insert h.nodup k row
  · intro e he
    cases Table.eq_or_mem_of_mem_put he with
    | inl heq =>
      rw [heq]
      exact hk
    | inr hm => exact h.keyed e hm

theorem id_of_findById? (hf : d.findById? id = some u) : u.id = id := by
  simpa using List.find?_some hf

/-- The user of an identifier stands under its key. -/
theorem Filed.find?_of_findById? (h : d.Filed) (hf : d.findById? id = some u) :
    d.rows.find? u.key = some u := by
  obtain ⟨e, he, heq⟩ := List.mem_map.1 (List.mem_of_find?_eq_some hf)
  have hk := h.keyed e he
  rw [heq] at hk
  apply Table.lookup_of_mem h.nodup
  rw [hk, ← heq]
  exact he

theorem key_merged (d : UserDirectory) (u : LocalUser) : (d.merged u).key = u.key := by
  unfold merged
  split <;> rfl

theorem Filed.save (h : d.Filed) (u : LocalUser) : (d.save u).2.Filed :=
  h.insert (key_merged d u)

theorem Filed.recordAdminCheck (h : d.Filed) (id : ObjectId) (admin : Bool) (time : Instant) :
    (d.recordAdminCheck id admin time).2.Filed := by
  unfold UserDirectory.recordAdminCheck
  split
  · exact h.insert rfl
  · exact h

/-- A key has one row, if it has any. -/
theorem Filed.filter_key (h : d.Filed) (k : String × String) :
    (d.rows.values.filter fun u => u.key = k) = (d.rows.find? k).toList := by
  obtain ⟨hn, hk⟩ := h
  show (d.rows.entries.map Prod.snd).filter _ = (Table.lookup k d.rows.entries).toList
  unfold Table.keys at hn
  generalize d.rows.entries = es at hn hk
  induction es with
  | nil => rfl
  | cons e es ih =>
    have hKey : e.2.key = e.1 := hk e List.mem_cons_self
    have hTail := ih (List.nodup_cons.1 hn).2 fun e' he' => hk e' (List.mem_cons_of_mem e he')
    simp only [List.map_cons, List.filter_cons, hKey, decide_eq_true_eq, Table.lookup]
    by_cases heq : e.1 = k
    · have hNone : Table.lookup k es = none := by
        rw [Table.lookup_eq_none_iff, ← heq]
        exact (List.nodup_cons.1 hn).1
      rw [if_pos heq, if_pos heq, hTail, hNone]
      rfl
    · rw [if_neg heq, if_neg heq]
      exact hTail

/-! ## The identifier of a key -/

/-- The row of a key has an identifier. -/
def Assigns (d : UserDirectory) (k : String × String) (id : ObjectId) : Prop :=
  ∃ row, d.rows.find? k = some row ∧ row.id = id

theorem assigns_save (d : UserDirectory) (u : LocalUser) : (d.save u).2.Assigns u.key (d.save u).1.id :=
  ⟨d.merged u, Table.find?_insert_self .., rfl⟩

theorem Assigns.unique (h : d.Assigns k id) (h' : d.Assigns k id') : id = id' := by
  obtain ⟨row, hf, rfl⟩ := h
  obtain ⟨row', hf', rfl⟩ := h'
  rw [hf] at hf'
  cases hf'
  rfl

/-- Saving again keeps the identifier. -/
theorem Assigns.save (h : d.Assigns k id) (u : LocalUser) : (d.save u).2.Assigns k id := by
  obtain ⟨old, hf, hid⟩ := h
  by_cases hk : u.key = k
  · refine ⟨d.merged u, ?_, ?_⟩
    · rw [← hk]
      exact Table.find?_insert_self ..
    · unfold merged
      rw [hk, hf]
      exact hid
  · exact ⟨old, (Table.find?_insert_of_ne _ _ hk).trans hf, hid⟩

theorem Assigns.recordAdminCheck (h : d.Assigns k id) (hd : d.Filed) (id' : ObjectId) (admin : Bool) (time : Instant) :
    (d.recordAdminCheck id' admin time).2.Assigns k id := by
  obtain ⟨old, hf, hid⟩ := h
  unfold UserDirectory.recordAdminCheck
  split
  · next u hu =>
    by_cases hk : u.key = k
    · have hsame := hd.find?_of_findById? hu
      rw [hk, hf] at hsame
      cases hsame
      refine ⟨{ old with admin, lastAdminCheck := some time }, ?_, hid⟩
      rw [← hk]
      exact Table.find?_insert_self ..
    · exact ⟨old, (Table.find?_insert_of_ne _ _ hk).trans hf, hid⟩
  · exact ⟨old, hf, hid⟩

/-- The row that remains for a key has its identifier. -/
theorem Assigns.filter_key (h : d.Assigns k id) (hd : d.Filed) :
    ∃ row, (d.rows.values.filter fun u => u.key = k) = [row] ∧ row.id = id := by
  obtain ⟨row, hf, hid⟩ := h
  refine ⟨row, ?_, hid⟩
  rw [hd.filter_key, hf]
  rfl

/-! ## Evaluations -/

/-- What was last evaluated for the user of an identifier, and when. -/
def evaluation? (d : UserDirectory) (id : ObjectId) : Option (Bool × Option Instant) :=
  (d.findById? id).map fun u => (u.admin, u.lastAdminCheck)

/-- The evaluations of all rows, by identifier. -/
def evaluations (d : UserDirectory) : List (ObjectId × (Bool × Option Instant)) :=
  d.rows.entries.map fun e => (e.2.id, e.2.admin, e.2.lastAdminCheck)

theorem lookup_evaluations (d : UserDirectory) (id : ObjectId) :
    Table.lookup id d.evaluations = d.evaluation? id := by
  show _ = ((d.rows.entries.map Prod.snd).find? fun u => u.id = id).map _
  unfold evaluations
  generalize d.rows.entries = es
  induction es with
  | nil => rfl
  | cons e es ih =>
    simp only [List.map_cons, Table.lookup, List.find?_cons]
    by_cases h : e.2.id = id
    · simp [h]
    · simp only [h, ↓reduceIte, decide_false]
      exact ih

/-- A row that keeps its identifier and its evaluation changes no evaluation. -/
theorem evaluations_insert {old : LocalUser} (hf : d.rows.find? k = some old) (hid : row.id = old.id)
    (hAdmin : row.admin = old.admin) (hTime : row.lastAdminCheck = old.lastAdminCheck) :
    evaluations ⟨d.rows.insert k row⟩ = d.evaluations := by
  show (Table.put k row d.rows.entries).map _ = d.rows.entries.map _
  change Table.lookup k d.rows.entries = some old at hf
  generalize d.rows.entries = es at hf
  induction es with
  | nil => cases hf
  | cons e es ih =>
    by_cases h : e.1 = k
    · rw [Table.lookup, if_pos h] at hf
      cases hf
      simp [Table.put, h, hid, hAdmin, hTime]
    · rw [Table.lookup, if_neg h] at hf
      simp only [Table.put, h, ↓reduceIte, List.map_cons, ih hf]

theorem evaluation?_save (d : UserDirectory) (u : LocalUser) {id : ObjectId} (hid : (d.evaluation? id).isSome = true) :
    (d.save u).2.evaluation? id = d.evaluation? id := by
  rw [← lookup_evaluations, ← lookup_evaluations]
  cases hf : d.rows.find? u.key with
  | some old =>
    have hRow : d.merged u = { u with id := old.id, admin := old.admin, lastAdminCheck := old.lastAdminCheck } := by
      unfold merged
      rw [hf]
    have hSame : (d.save u).2.evaluations = d.evaluations := by
      apply evaluations_insert hf
      · rw [hRow]
      · rw [hRow]
      · rw [hRow]
    rw [hSame]
  | none =>
    -- The new row comes last, after the row that has the identifier already.
    have hNew : (d.save u).2.rows.entries = d.rows.entries ++ [(u.key, d.merged u)] :=
      Table.put_of_not_mem (Table.find?_eq_none_iff.1 hf) _
    rw [← lookup_evaluations] at hid
    show Table.lookup id ((d.save u).2.rows.entries.map _) = _
    rw [hNew, List.map_append]
    show Table.lookup id (d.evaluations ++ _) = _
    exact Table.lookup_append_of_isSome hid _

theorem evaluations_recordAdminCheck (hd : d.Filed) (hu : d.findById? id = some u) (admin : Bool) (time : Instant) :
    (d.recordAdminCheck id admin time).2.evaluations = Table.put id (admin, some time) d.evaluations := by
  have hRow : d.recordAdminCheck id admin time =
      (.ok (), ⟨d.rows.insert u.key { u with admin, lastAdminCheck := some time }⟩) := by
    unfold UserDirectory.recordAdminCheck
    rw [hu]
  have hUnder : Table.lookup u.key d.rows.entries = some u := hd.find?_of_findById? hu
  have hId : u.id = id := id_of_findById? hu
  have hKeyed := hd.keyed
  rw [hRow]
  show (Table.put u.key _ d.rows.entries).map _ = Table.put id _ (d.rows.entries.map _)
  change (d.rows.entries.map Prod.snd).find? _ = some u at hu
  generalize d.rows.entries = es at hUnder hu hKeyed
  induction es with
  | nil => cases hu
  | cons e es ih =>
    by_cases hKey : e.1 = u.key
    · rw [Table.lookup, if_pos hKey] at hUnder
      cases hUnder
      simp [Table.put, hKey, hId]
    · -- The user is the first one with its identifier, and so this row has another one.
      have hOther : e.2.id ≠ id := by
        intro heq
        simp only [List.map_cons, List.find?_cons, heq, decide_true, Option.some.injEq] at hu
        apply hKey
        rw [← hu]
        exact (hKeyed e List.mem_cons_self).symm
      rw [Table.lookup, if_neg hKey] at hUnder
      simp only [List.map_cons, List.find?_cons, hOther, decide_false] at hu
      simp only [Table.put, hKey, hOther, ↓reduceIte, List.map_cons]
      rw [ih hUnder hu fun e' he' => hKeyed e' (List.mem_cons_of_mem e he')]

/-- An evaluation is recorded for the user of the identifier and for no other. -/
theorem evaluation?_recordAdminCheck (hd : d.Filed) {id : ObjectId} (hid : (d.evaluation? id).isSome = true)
    (id' : ObjectId) (admin : Bool) (time : Instant) :
    (d.recordAdminCheck id' admin time).2.evaluation? id =
      if id' = id then some (admin, some time) else d.evaluation? id := by
  cases hu : d.findById? id' with
  | some u =>
    rw [← lookup_evaluations, ← lookup_evaluations, evaluations_recordAdminCheck hd hu]
    exact Table.lookup_put ..
  | none =>
    have hSame : (d.recordAdminCheck id' admin time).2 = d := by
      unfold UserDirectory.recordAdminCheck
      rw [hu]
    have hne : id' ≠ id := by
      intro heq
      rw [heq] at hu
      rw [evaluation?, hu] at hid
      cases hid
    rw [hSame, if_neg hne]

/-- The evaluations of a list are recorded one after the other. -/
def recordAll (d : UserDirectory) (cs : List AdminCheck) : UserDirectory :=
  cs.foldl (fun d c => (c.perform d).2) d

theorem Filed.recordAll (h : d.Filed) (cs : List AdminCheck) : (d.recordAll cs).Filed := by
  induction cs generalizing d with
  | nil => exact h
  | cons c cs ih => exact ih (h.recordAdminCheck c.userId c.admin c.time)

theorem Assigns.recordAll (h : d.Assigns k id) (hd : d.Filed) (cs : List AdminCheck) :
    (d.recordAll cs).Assigns k id := by
  induction cs generalizing d with
  | nil => exact h
  | cons c cs ih =>
    exact ih (h.recordAdminCheck hd c.userId c.admin c.time) (hd.recordAdminCheck c.userId c.admin c.time)

end Gatehouse.UserDirectory
