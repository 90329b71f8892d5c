import Gatehouse.Proofs.DirectoryRows
import Mathlib.Data.List.Induction
/-!
# One identity for every principal

Whatever is done to an empty user directory, every key keeps the identifier under which it was saved first, no two
keys have the same one, and a row can be found by its key and by its identifier alike. Main statement: these facts for
every sequence of operations, together with what a row says: what was saved last under its key, under the first
identifier, with what was evaluated last for it. New keys are to bring identifiers that no row has yet.
-/

namespace Gatehouse.UserDirectory

variable {d : UserDirectory} {k k' : String × String} {u row : LocalUser} {id : ObjectId} {op : Op} {ops : List Op}

/-! ## Sequences of operations -/

/-- The directory after some operations. -/
def after (d : UserDirectory) (ops : List Op) : UserDirectory := ops.foldl (fun d op => (d.perform op).2) d

theorem after_append (d : UserDirectory) (ops later : List Op) : d.after (ops ++ later) = (d.after ops).after later :=
  List.foldl_append

/-- Who is saved under a new key brings an identifier that no row has. -/
def Op.BringsFresh (d : UserDirectory) : Op → Prop
  | .save u => d.findByKey? u.domain u.externalId = none → d.findById? u.id = none
  | _ => True

/-- In a sequence of operations everybody brings a fresh identifier who is saved under a new key. -/
def BringFresh (d : UserDirectory) : List Op → Prop
  | [] => True
  | op :: ops => op.BringsFresh d ∧ BringFresh (d.perform op).2 ops

theorem bringFresh_concat (d : UserDirectory) (ops : List Op) (op : Op) :
    BringFresh d (ops ++ [op]) ↔ BringFresh d ops ∧ op.BringsFresh (d.after ops) := by
  induction ops generalizing d with
  | nil => simp [BringFresh, after]
  | cons first ops ih =>
    simp only [List.cons_append, BringFresh, ih, and_assoc]
    rfl

/-! ## Identifiers -/

/-- No identifier belongs to two keys. -/
def Distinct (d : UserDirectory) : Prop := ∀ k k' id, d.Assigns k id → d.Assigns k' id → k = k'

theorem distinct_empty : Distinct {} := by
  rintro k k' id ⟨row, hrow, -⟩
  cases hrow

theorem Filed.findById?_eq_none_iff (h : d.Filed) : d.findById? id = none ↔ ∀ k, ¬ d.Assigns k id := by
  unfold findById?
  rw [List.find?_eq_none]
  constructor
  · rintro hnone k ⟨row, hrow, hid⟩
    have hmem : row ∈ d.rows.values := List.mem_map_of_mem (Table.mem_keys_of_lookup hrow)
    exact hnone row hmem (decide_eq_true hid)
  · intro hnone row hrow hid
    obtain ⟨e, he, rfl⟩ := List.mem_map.1 hrow
    exact hnone e.1 ⟨e.2, Table.lookup_of_mem h.nodup he, of_decide_eq_true hid⟩

theorem Filed.key_eq (h : d.Filed) (hrow : d.rows.find? k = some row) : row.key = k :=
  h.keyed _ (Table.mem_keys_of_lookup hrow)

/-- Rows are found by their identifiers exactly as they are found by their keys. -/
theorem Filed.findById?_eq_some_iff (h : d.Filed) (hd : d.Distinct) :
    d.findById? id = some u ↔ u.id = id ∧ d.rows.find? u.key = some u := by
  constructor
  · intro hu
    exact ⟨id_of_findById? hu, h.find?_of_findById? hu⟩
  · rintro ⟨hid, hu⟩
    cases hv : d.findById? id with
    | none => exact absurd ⟨u, hu, hid⟩ (h.findById?_eq_none_iff.1 hv u.key)
    | some v =>
      have hkey : v.key = u.key :=
        hd _ _ id ⟨v, h.find?_of_findById? hv, id_of_findById? hv⟩ ⟨u, hu, hid⟩
      have hsame := h.find?_of_findById? hv
      rw [hkey, hu] at hsame
      exact hsame.symm

/-! ## What an operation does to a row -/

theorem find?_save (d : UserDirectory) (u : LocalUser) (k : String × String) :
    (d.save u).2.rows.find? k = if u.key = k then some (d.merged u) else d.rows.find? k := Table.find?_insert ..

/-- An evaluation is written into the row of its identifier, wherever that is. -/
theorem find?_recordAdminCheck (h : d.Filed) (hd : d.Distinct) (id : ObjectId) (admin : Bool) (time : Instant)
    (k : String × String) :
    (d.recordAdminCheck id admin time).2.rows.find? k = (d.rows.find? k).map fun row =>
      if row.id = id then { row with admin, lastAdminCheck := some time } else row := by
  unfold recordAdminCheck
  cases hu : d.findById? id with
  | none =>
    have hnone := h.findById?_eq_none_iff.1 hu k
    cases hrow : d.rows.find? k with
    | none => rfl
    | some row =>
      have hid : row.id ≠ id := fun hid => hnone ⟨row, hrow, hid⟩
      simp [hid]
  | some u =>
    obtain ⟨hid, hrow⟩ := (h.findById?_eq_some_iff hd).1 hu
    show (d.rows.insert u.key _).find? k = _
    rw [Table.find?_insert]
    split
    · next hk =>
      subst hk
      simp [hrow, hid]
    · next hk =>
      cases hother : d.rows.find? k with
      | none => rfl
      | some row =>
        have hne : row.id ≠ id := fun heq => hk (hd _ _ id ⟨u, hrow, hid⟩ ⟨row, hother, heq⟩)
        simp [hne]

/-- An operation touches the row of a key. -/
def Op.Touches (d : UserDirectory) (k : String × String) : Op → Prop
  | .save u => u.key = k
  | .recordAdminCheck id _ _ => d.Assigns k id
  | _ => False

theorem find?_of_not_touches (h : d.Filed) (hop : ¬ op.Touches d k) :
    (d.perform op).2.rows.find? k = d.rows.find? k := by
  cases op with
  | save u => exact (find?_save d u k).trans (if_neg hop)
  | recordAdminCheck id admin time =>
    show (d.recordAdminCheck id admin time).2.rows.find? k = _
    unfold recordAdminCheck
    cases hu : d.findById? id with
    | none => rfl
    | some u =>
      have hk : u.key ≠ k := by
        rintro rfl
        exact hop ⟨u, h.find?_of_findById? hu, id_of_findById? hu⟩
      exact Table.find?_insert_of_ne _ _ hk
  | _ => rfl

/-! ## What stays so -/

theorem Filed.perform (h : d.Filed) (op : Op) : (d.perform op).2.Filed := by
  cases op with
  | save u => exact h.save u
  | recordAdminCheck id admin time => exact h.recordAdminCheck id admin time
  | _ => exact h

theorem Filed.after (h : d.Filed) (ops : List Op) : (d.after ops).Filed := by
  induction ops generalizing d with
  | nil => exact h
  | cons op ops ih => exact ih (h.perform op)

theorem Assigns.perform (ha : d.Assigns k id) (h : d.Filed) (op : Op) : (d.perform op).2.Assigns k id := by
  cases op with
  | save u => exact ha.save u
  | recordAdminCheck id' admin time => exact ha.recordAdminCheck h id' admin time
  | _ => exact ha

theorem Assigns.after (ha : d.Assigns k id) (h : d.Filed) (ops : List Op) : (d.after ops).Assigns k id := by
  induction ops generalizing d with
  | nil => exact ha
  | cons op ops ih => exact ih (ha.perform h op) (h.perform op)

/-- A key that has an identifier after an operation had it before, or the operation saved it first. -/
theorem Assigns.cases (ha : (d.perform op).2.Assigns k id) (h : d.Filed) :
    d.Assigns k id ∨ d.rows.find? k = none ∧ ∃ u, op = .save u ∧ u.key = k ∧ u.id = id := by
  cases hrow : d.rows.find? k with
  | some row =>
    have hold : d.Assigns k row.id := ⟨row, hrow, rfl⟩
    cases (hold.perform h op).unique ha
    exact .inl hold
  | none =>
    obtain ⟨new, hnew, hid⟩ := ha
    by_cases ht : op.Touches d k
    · cases op with
      | save u =>
        have hkey : u.key = k := ht
        have hfind := find?_save d u k
        rw [if_pos hkey, merged, hkey, hrow] at hfind
        cases hfind.symm.trans hnew
        exact .inr ⟨rfl, u, rfl, hkey, hid⟩
      | recordAdminCheck =>
        obtain ⟨_, hsome, -⟩ := ht
        cases hsome.symm.trans hrow
      | _ => cases ht
    · rw [find?_of_not_touches h ht, hrow] at hnew
      cases hnew

theorem Distinct.perform (hd : d.Distinct) (h : d.Filed) (hf : op.BringsFresh d) : (d.perform op).2.Distinct := by
  -- An identifier that comes with a new key is fresh, and so no other key has it.
  have fresh : ∀ {k k' u}, d.rows.find? k = none → op = .save u → u.key = k → ¬ d.Assigns k' u.id := by
    rintro k k' u hk rfl rfl
    exact h.findById?_eq_none_iff.1 (hf hk) k'
  intro k k' id ha ha'
  rcases ha.cases h with hold | ⟨hk, u, hop, hu, rfl⟩
  · rcases ha'.cases h with hold' | ⟨hk', u', hop', hu', rfl⟩
    · exact hd k k' id hold hold'
    · exact absurd hold (fresh hk' hop' hu')
  · rcases ha'.cases h with hold' | ⟨hk', u', hop', hu', hid⟩
    · exact absurd hold' (fresh hk hop hu)
    · cases hop.symm.trans hop'
      exact hu.symm.trans hu'

theorem distinct_after (hf : BringFresh {} ops) : (after {} ops).Distinct := by
  induction ops using List.reverseRecOn with
  | nil => exact distinct_empty
  | append_singleton ops op ih =>
    obtain ⟨hops, hop⟩ := (bringFresh_concat {} ops op).1 hf
    rw [after_append]
    exact (ih hops).perform (filed_empty.after ops) hop

/-! ## What a row says -/

/-- The user that an operation saves under a key. -/
def Op.saved? (k : String × String) : Op → Option LocalUser
  | .save u => if u.key = k then some u else none
  | _ => none

/-- What an operation records of the user of an identifier: whether it administers, and when that was evaluated. -/
def Op.recorded? (id : ObjectId) : Op → Option (Bool × Option Instant)
  | .recordAdminCheck id' admin time => if id' = id then some (admin, some time) else none
  | _ => none

/-- The row of somebody who was saved under a new key, after some more operations: as it was saved last, under its
first identifier, with what was recorded last. -/
def rowOf (first : LocalUser) (later : List Op) : LocalUser :=
  let last := (later.filterMap (Op.saved? first.key)).getLast?.getD first
  let evaluation := (later.filterMap (Op.recorded? first.id)).getLast?.getD (first.admin, first.lastAdminCheck)
  { last with id := first.id, admin := evaluation.1, lastAdminCheck := evaluation.2 }

/-- A row says what was done since somebody was first saved under its key; without a save there is none. -/
def Tells (k : String × String) (ops : List Op) (row : Option LocalUser) : Prop :=
  (ops.filterMap (Op.saved? k) = [] ∧ row = none) ∨
    ∃ earlier first later, ops = earlier ++ .save first :: later ∧ earlier.filterMap (Op.saved? k) = [] ∧
      first.key = k ∧ row = some (rowOf first later)

section
variable (first : LocalUser) (later : List Op)

theorem rowOf_save (hk : u.key = first.key) : rowOf first (later ++ [.save u]) =
    { u with
      id := first.id, admin := (rowOf first later).admin, lastAdminCheck := (rowOf first later).lastAdminCheck } := by
  simp [rowOf, Op.saved?, Op.recorded?, hk]

theorem rowOf_recordAdminCheck (admin : Bool) (time : Instant) :
    rowOf first (later ++ [.recordAdminCheck first.id admin time]) =
      { rowOf first later with admin, lastAdminCheck := some time } := by
  simp [rowOf, Op.saved?, Op.recorded?]

theorem rowOf_concat (hs : op.saved? first.key = none) (hr : op.recorded? first.id = none) :
    rowOf first (later ++ [op]) = rowOf first later := by
  simp [rowOf, hs, hr]

end

theorem merged_of_find? (h : d.rows.find? u.key = some row) :
    d.merged u = { u with id := row.id, admin := row.admin, lastAdminCheck := row.lastAdminCheck } := by
  unfold merged
  rw [h]

theorem merged_of_new (h : d.rows.find? u.key = none) : d.merged u = u := by
  unfold merged
  rw [h]

/-- A row that says what was done says it after one more operation. -/
theorem Tells.perform (ht : Tells k ops (d.rows.find? k)) (h : d.Filed) (hd : d.Distinct) (op : Op) :
    Tells k (ops ++ [op]) ((d.perform op).2.rows.find? k) := by
  rcases ht with ⟨hnew, hnone⟩ | ⟨earlier, first, later, rfl, hnew, rfl, hrow⟩
  · -- The first save under the key opens the row; all else leaves the key without one.
    cases hs : op.saved? k with
    | some u =>
      cases op with
      | save u =>
        obtain ⟨rfl, -⟩ := Option.ite_none_right_eq_some.1 hs
        refine .inr ⟨ops, u, [], rfl, hnew, rfl, ?_⟩
        show (d.save u).2.rows.find? u.key = _
        rw [find?_save, if_pos rfl, merged_of_new hnone]
        rfl
      | _ => cases hs
    | none =>
      have huntouched : ¬ op.Touches d k := by
        cases op with
        | save u =>
          intro hk
          rw [show Op.saved? k (.save u) = some u from if_pos hk] at hs
          cases hs
        | recordAdminCheck =>
          rintro ⟨row, hrow, -⟩
          cases hnone.symm.trans hrow
        | _ => exact id
      refine .inl ⟨by simp [hnew, hs], ?_⟩
      rw [find?_of_not_touches h huntouched, hnone]
  · refine .inr ⟨earlier, first, later ++ [op], by simp, hnew, rfl, ?_⟩
    cases op with
    | save u =>
      show (d.save u).2.rows.find? first.key = _
      rw [find?_save]
      by_cases hk : u.key = first.key
      · rw [if_pos hk, merged_of_find? (hk ▸ hrow), rowOf_save first later hk]
        rfl
      · have hs : Op.saved? first.key (.save u) = none := if_neg hk
        rw [if_neg hk, hrow, rowOf_concat first later hs rfl]
    | recordAdminCheck id admin time =>
      show (d.recordAdminCheck id admin time).2.rows.find? first.key = _
      rw [find?_recordAdminCheck h hd, hrow]
      by_cases hid : first.id = id
      · subst hid
        rw [rowOf_recordAdminCheck]
        exact congrArg some (if_pos rfl)
      · have hr : Op.recorded? first.id (.recordAdminCheck id admin time) = none := if_neg (Ne.symm hid)
        rw [rowOf_concat first later rfl hr]
        exact congrArg some (if_neg hid)
    | _ => exact hrow.trans (congrArg some (rowOf_concat first later rfl rfl).symm)

theorem tells_after (hf : BringFresh {} ops) (k : String × String) : Tells k ops ((after {} ops).rows.find? k) := by
  induction ops using List.reverseRecOn with
  | nil => exact .inl ⟨rfl, rfl⟩
  | append_singleton ops op ih =>
    obtain ⟨hops, -⟩ := (bringFresh_concat {} ops op).1 hf
    rw [after_append]
    exact (ih hops).perform (filed_empty.after ops) (distinct_after hops) op

/-- Whoever is saved again under a key gets the identifier of the save before. -/
theorem id_save_again (h : d.Filed) {u' : LocalUser} (hk : u'.key = u.key) (between : List Op) :
    (((d.save u).2.after between).save u').1.id = (d.save u).1.id := by
  have hd' : ((d.save u).2.after between).Assigns u.key (d.save u).1.id := (assigns_save d u).after (h.save u) between
  have hSaved := assigns_save ((d.save u).2.after between) u'
  rw [hk] at hSaved
  exact hSaved.unique (hd'.save u')

/-- Whatever is done to an empty directory, as long as everybody who is saved under a new key brings a fresh identifier:
a row stands under its own key; no identifier stands twice; who is saved again under a key gets the identifier of the
first time; the row of a key says what was saved last under the key, and what was evaluated last for its identifier;
an operation touches no other row; rows are found by identifier as they are by key; and an evaluation of nobody is
refused, and changes nothing. -/
theorem identities_are_kept (hf : BringFresh {} ops) :
    let d := after {} ops
    (∀ k row, d.rows.find? k = some row → row.key = k) ∧
    (∀ k k' row row', d.rows.find? k = some row → d.rows.find? k' = some row' → row.id = row'.id → k = k') ∧
    (∀ earlier u between u' later, ops = earlier ++ .save u :: (between ++ .save u' :: later) → u'.key = u.key →
      ((after {} (earlier ++ .save u :: between)).save u').1.id = ((after {} earlier).save u).1.id) ∧
    (∀ k, Tells k ops (d.rows.find? k)) ∧
    (∀ op k, ¬ op.Touches d k → (d.perform op).2.rows.find? k = d.rows.find? k) ∧
    (∀ id u, d.findById? id = some u ↔ u.id = id ∧ d.findByKey? u.domain u.externalId = some u) ∧
    ∀ id admin time, (∀ k, ¬ d.Assigns k id) → d.perform (.recordAdminCheck id admin time) =
      (.error (.notFound ("Local user " ++ id.toText ++ " not found")), d) := by
  intro d
  have h : d.Filed := filed_empty.after ops
  have hd : d.Distinct := distinct_after hf
  refine ⟨fun k row => h.key_eq, ?_, ?_, tells_after hf, fun op k => find?_of_not_touches h,
    fun id u => h.findById?_eq_some_iff hd, ?_⟩
  · intro k k' row row' hrow hrow' hid
    exact hd k k' row.id ⟨row, hrow, rfl⟩ ⟨row', hrow', hid.symm⟩
  · intro earlier u between u' later _ hk
    rw [after_append]
    exact id_save_again (filed_empty.after earlier) hk between
  · intro id admin time hnone
    show d.recordAdminCheck id admin time = _
    unfold recordAdminCheck
    rw [h.findById?_eq_none_iff.2 hnone]
    rfl

/-- Ann of the staff comes back under another name and another identifier, after she was found to administer and a
guest of the same name came by: she keeps her identifier and what was found, and both can be found by identifier. -/
theorem identities_are_kept_renamed :
    let ann : LocalUser := { id := ⟨1⟩, externalId := "ann", loginName := "ann", domain := "staff" }
    let guest : LocalUser := { ann with id := ⟨2⟩, domain := "guests" }
    let renamed : LocalUser := { ann with id := ⟨3⟩, loginName := "ann.b" }
    let ops : List Op := [.save ann, .recordAdminCheck ⟨1⟩ true ⟨7, 0⟩, .save guest, .save renamed]
    let row : LocalUser := { renamed with id := ⟨1⟩, admin := true, lastAdminCheck := some ⟨7, 0⟩ }
    BringFresh {} ops ∧ Tells ann.key ops (some row) ∧ (after {} ops).findById? ⟨1⟩ = some row ∧
      (after {} ops).findById? ⟨2⟩ = some guest ∧ ((after {} (ops.take 3)).save renamed).1.id = ⟨1⟩ := by
  intro ann guest renamed ops row
  have hf : BringFresh {} ops := by
    refine ⟨fun _ => rfl, trivial, fun _ => ?_, fun hnew => ?_, trivial⟩
    · decide
    · cases hnew
  have hrow : (after {} ops).rows.find? ann.key = some row := rfl
  obtain ⟨-, -, hsame, htells, -, hagree, -⟩ := identities_are_kept hf
  refine ⟨hf, hrow ▸ htells ann.key, (hagree ⟨1⟩ row).2 ⟨rfl, rfl⟩, (hagree ⟨2⟩ guest).2 ⟨rfl, rfl⟩, ?_⟩
  exact hsame [] ann _ renamed [] rfl rfl

end Gatehouse.UserDirectory
