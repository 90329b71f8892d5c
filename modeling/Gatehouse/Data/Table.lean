/-!
Finite maps as lists of entries. A key stands at most once in a table that was built by `insert`
and `erase`, and a written key keeps its place. Main statements: what `find?` answers after
`insert`, `erase` and `filter`, and that distinct keys stay distinct.
-/

namespace Gatehouse

/-- A finite map from `κ` to `α`. -/
structure Table (κ α : Type) where
  /-- The entries, in the order in which their keys were first written. -/
  entries : List (κ × α) := []

namespace Table

variable {κ α β : Type}

/-- The table without entries. -/
def empty : Table κ α := ⟨[]⟩

instance : EmptyCollection (Table κ α) := ⟨empty⟩

instance : Inhabited (Table κ α) := ⟨empty⟩

/-- The keys, in the order of the entries. -/
def keys (t : Table κ α) : List κ := t.entries.map Prod.fst

/-- The values, in the order of the entries. -/
def values (t : Table κ α) : List α := t.entries.map Prod.snd

/-- How many entries there are. -/
def size (t : Table κ α) : Nat := t.entries.length

/-- Whether there is no entry. -/
def isEmpty (t : Table κ α) : Bool := t.entries.isEmpty

variable [DecidableEq κ]

/-- The value under a key in a list of entries: the first one counts. -/
def lookup (k : κ) : List (κ × α) → Option α
  | [] => none
  | (k', v) :: rest => if k' = k then some v else lookup k rest

/-- The value under a key. -/
def find? (t : Table κ α) (k : κ) : Option α := lookup k t.entries

/-- Whether a key is present. -/
def contains (t : Table κ α) (k : κ) : Bool := (t.find? k).isSome

/-- Writes a value in place, or at the end when the key is new. -/
def put (k : κ) (v : α) : List (κ × α) → List (κ × α)
  | [] => [(k, v)]
  | (k', v') :: rest => if k' = k then (k, v) :: rest else (k', v') :: put k v rest

/-- Binds a key to a value, over whatever it was bound to. -/
def insert (t : Table κ α) (k : κ) (v : α) : Table κ α := ⟨put k v t.entries⟩

/-- Removes a key. -/
def erase (t : Table κ α) (k : κ) : Table κ α := ⟨t.entries.filter fun e => e.1 ≠ k⟩

/-- Keeps the entries whose value passes the test. -/
def filter (t : Table κ α) (p : α → Bool) : Table κ α := ⟨t.entries.filter fun e => p e.2⟩

omit [DecidableEq κ] in
/-- Changes every value. -/
def mapValues (t : Table κ α) (f : α → β) : Table κ β := ⟨t.entries.map fun e => (e.1, f e.2)⟩

/-- The table of a list of bindings; a later binding of a key replaces an earlier one. -/
def ofList (bindings : List (κ × α)) : Table κ α :=
  bindings.foldl (fun t b => t.insert b.1 b.2) ∅

omit [DecidableEq κ] in
/-- The entries by ascending key. -/
def sorted [LE κ] [DecidableLE κ] (t : Table κ α) : List (κ × α) :=
  t.entries.mergeSort fun a b => decide (a.1 ≤ b.1)

@[simp] theorem find?_empty (k : κ) : (∅ : Table κ α).find? k = none := rfl

theorem lookup_put (k k' : κ) (v : α) (es : List (κ × α)) :
    lookup k' (put k v es) = if k = k' then some v else lookup k' es := by
  induction es with
  | nil => simp [put, lookup]
  | cons e es ih => grind [put, lookup]

/-- A written key answers what was written, and every other key what it answered before. -/
theorem find?_insert (t : Table κ α) (k k' : κ) (v : α) :
    (t.insert k v).find? k' = if k = k' then some v else t.find? k' :=
  lookup_put k k' v t.entries

@[simp] theorem find?_insert_self (t : Table κ α) (k : κ) (v : α) :
    (t.insert k v).find? k = some v := by
  simp [find?_insert]

theorem find?_insert_of_ne (t : Table κ α) {k k' : κ} (v : α) (h : k ≠ k') :
    (t.insert k v).find? k' = t.find? k' := by
  simp [find?_insert, h]

theorem lookup_filter_key (k k' : κ) (es : List (κ × α)) :
    lookup k' (es.filter fun e => e.1 ≠ k) = if k = k' then none else lookup k' es := by
  induction es with
  | nil => simp [lookup]
  | cons e es ih => grind [lookup]

/-- An erased key answers nothing, and every other key what it answered before. -/
theorem find?_erase (t : Table κ α) (k k' : κ) :
    (t.erase k).find? k' = if k = k' then none else t.find? k' :=
  lookup_filter_key k k' t.entries

theorem mem_keys_of_lookup {k : κ} {v : α} {es : List (κ × α)} (h : lookup k es = some v) :
    (k, v) ∈ es := by
  induction es with
  | nil => simp [lookup] at h
  | cons e es ih => grind [lookup]

theorem lookup_eq_none_iff {k : κ} {es : List (κ × α)} :
    lookup k es = none ↔ k ∉ es.map Prod.fst := by
  induction es with
  | nil => simp [lookup]
  | cons e es ih => grind [lookup]

/-- A key answers nothing exactly when it is not among the keys. -/
theorem find?_eq_none_iff {t : Table κ α} {k : κ} : t.find? k = none ↔ k ∉ t.keys :=
  lookup_eq_none_iff

theorem map_fst_put (k : κ) (v : α) (es : List (κ × α)) :
    (put k v es).map Prod.fst =
      if k ∈ es.map Prod.fst then es.map Prod.fst else es.map Prod.fst ++ [k] := by
  induction es with
  | nil => simp [put]
  | cons e es ih => grind [put]

/-- A write keeps the keys as they are, or adds a new one at the end. -/
theorem keys_insert (t : Table κ α) (k : κ) (v : α) :
    (t.insert k v).keys = if k ∈ t.keys then t.keys else t.keys ++ [k] :=
  map_fst_put k v t.entries

/-- A new key makes one entry more. -/
theorem size_insert_of_find?_eq_none {t : Table κ α} {k : κ} (h : t.find? k = none) (v : α) :
    (t.insert k v).size = t.size + 1 := by
  have hkeys := keys_insert t k v
  rw [if_neg (find?_eq_none_iff.1 h)] at hkeys
  simpa [keys, size] using congrArg List.length hkeys

theorem lookup_append_of_not_mem {k : κ} {es : List (κ × α)} (h : k ∉ es.map Prod.fst) (v : α) :
    lookup k (es ++ [(k, v)]) = some v := by
  induction es with
  | nil => simp [lookup]
  | cons e es ih => grind [lookup]

theorem lookup_append_of_isSome {k : κ} {es : List (κ × α)} (h : (lookup k es).isSome = true) (later : List (κ × α)) :
    lookup k (es ++ later) = lookup k es := by
  induction es with
  | nil => cases h
  | cons e es ih => grind [lookup]

theorem put_of_not_mem {k : κ} {es : List (κ × α)} (h : k ∉ es.map Prod.fst) (v : α) :
    put k v es = es ++ [(k, v)] := by
  induction es with
  | nil => rfl
  | cons e es ih => grind [put]

theorem put_append_of_not_mem {k : κ} {es : List (κ × α)} (h : k ∉ es.map Prod.fst) (v w : α) :
    put k v (es ++ [(k, w)]) = es ++ [(k, v)] := by
  induction es with
  | nil => simp [put]
  | cons e es ih => grind [put]

theorem filter_put (k : κ) (v : α) (es : List (κ × α)) :
    (put k v es).filter (fun e => e.1 ≠ k) = es.filter fun e => e.1 ≠ k := by
  induction es with
  | nil => simp [put]
  | cons e es ih => grind [put]

theorem eq_or_mem_of_mem_put {k : κ} {v : α} {es : List (κ × α)} {e : κ × α} (h : e ∈ put k v es) :
    e = (k, v) ∨ e ∈ es := by
  induction es with
  | nil => simp [put] at h; simp [h]
  | cons e' es ih => grind [put]

theorem lookup_of_mem {k : κ} {v : α} {es : List (κ × α)} (hKeys : (es.map Prod.fst).Nodup) (h : (k, v) ∈ es) :
    lookup k es = some v := by
  induction es with
  | nil => cases h
  | cons e es ih =>
    have hHead : e.1 ∉ es.map Prod.fst := (List.nodup_cons.1 hKeys).1
    have hTail : (es.map Prod.fst).Nodup := (List.nodup_cons.1 hKeys).2
    cases h with
    | head => simp [lookup]
    | tail _ h =>
      have hne : e.1 ≠ k := by
        intro heq
        apply hHead
        rw [heq]
        exact List.mem_map_of_mem h
      rw [lookup, if_neg hne]
      exact ih hTail h

/-- Erasing a key undoes whatever was written under it. -/
theorem erase_insert (t : Table κ α) (k : κ) (v : α) : (t.insert k v).erase k = t.erase k :=
  congrArg Table.mk (filter_put k v t.entries)

theorem erase_of_find?_eq_none {t : Table κ α} {k : κ} (h : t.find? k = none) : t.erase k = t := by
  have hk : ∀ e ∈ t.entries, decide (e.1 ≠ k) = true := fun e he =>
    decide_eq_true fun heq => find?_eq_none_iff.1 h (heq ▸ List.mem_map_of_mem he)
  exact congrArg Table.mk (List.filter_eq_self.2 hk)

theorem lookup_map (f : α → β) (k : κ) (es : List (κ × α)) :
    lookup k (es.map fun e => (e.1, f e.2)) = (lookup k es).map f := by
  induction es with
  | nil => rfl
  | cons e es ih => grind [lookup]

@[simp] theorem find?_mapValues (t : Table κ α) (f : α → β) (k : κ) :
    (t.mapValues f).find? k = (t.find? k).map f :=
  lookup_map f k t.entries

theorem map_put (f : α → β) (k : κ) (v : α) (es : List (κ × α)) :
    (put k v es).map (fun e => (e.1, f e.2)) = put k (f v) (es.map fun e => (e.1, f e.2)) := by
  induction es with
  | nil => rfl
  | cons e es ih => grind [put]

theorem mapValues_insert (t : Table κ α) (f : α → β) (k : κ) (v : α) :
    (t.insert k v).mapValues f = (t.mapValues f).insert k (f v) :=
  congrArg Table.mk (map_put f k v t.entries)

theorem mapValues_erase (t : Table κ α) (f : α → β) (k : κ) : (t.erase k).mapValues f = (t.mapValues f).erase k := by
  simp [mapValues, erase, List.filter_map, Function.comp_def]

omit [DecidableEq κ] in
/-- A filter does not see a change that its test does not see. -/
theorem mapValues_filter (t : Table κ α) {f : α → β} {p : α → Bool} {q : β → Bool} (h : ∀ a, q (f a) = p a) :
    (t.filter p).mapValues f = (t.mapValues f).filter q := by
  simp [mapValues, filter, List.filter_map, Function.comp_def, h]

omit [DecidableEq κ] in
@[simp] theorem size_mapValues (t : Table κ α) (f : α → β) : (t.mapValues f).size = t.size := by
  simp [mapValues, size]

theorem nodup_keys_insert {t : Table κ α} (h : t.keys.Nodup) (k : κ) (v : α) :
    (t.insert k v).keys.Nodup := by
  rw [keys_insert]
  split
  · exact h
  · next hk => exact List.nodup_append.2 ⟨h, by simp, by grind⟩

theorem nodup_keys_erase {t : Table κ α} (h : t.keys.Nodup) (k : κ) : (t.erase k).keys.Nodup :=
  h.sublist (List.filter_sublist.map Prod.fst)

omit [DecidableEq κ] in
theorem nodup_keys_filter {t : Table κ α} (h : t.keys.Nodup) (p : α → Bool) :
    (t.filter p).keys.Nodup :=
  h.sublist (List.filter_sublist.map Prod.fst)

theorem lookup_filter {es : List (κ × α)} (h : (es.map Prod.fst).Nodup) (p : α → Bool) (k : κ) :
    lookup k (es.filter fun e => p e.2) = (lookup k es).filter p := by
  induction es with
  | nil => simp [lookup]
  | cons e es ih =>
    have hes : (es.map Prod.fst).Nodup := (List.nodup_cons.1 h).2
    have he : e.1 ∉ es.map Prod.fst := (List.nodup_cons.1 h).1
    by_cases hp : p e.2 <;> by_cases hk : e.1 = k
    · simp [hp, hk, lookup, Option.filter]
    · simp [hp, hk, lookup, ih hes]
    · have : lookup k es = none := lookup_eq_none_iff.2 (hk ▸ he)
      simp [hp, hk, lookup, ih hes, this, Option.filter]
    · simp [hp, hk, lookup, ih hes]

/-- With distinct keys, a key survives a filter exactly when its value passes. -/
theorem find?_filter {t : Table κ α} (h : t.keys.Nodup) (p : α → Bool) (k : κ) :
    (t.filter p).find? k = (t.find? k).filter p :=
  lookup_filter h p k

theorem lookup_filter_of_forall {es : List (κ × α)} {p : α → Bool} {k : κ}
    (h : ∀ e ∈ es, e.1 = k → p e.2 = true) : lookup k (es.filter fun e => p e.2) = lookup k es := by
  induction es with
  | nil => rfl
  | cons e es ih => grind [lookup]

/-- A filter that keeps whatever stands under a key does not change what the key answers. -/
theorem find?_filter_of_forall {t : Table κ α} {p : α → Bool} {k : κ}
    (h : ∀ e ∈ t.entries, e.1 = k → p e.2 = true) : (t.filter p).find? k = t.find? k :=
  lookup_filter_of_forall h

end Table

end Gatehouse
