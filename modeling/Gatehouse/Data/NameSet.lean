/-!
Sets of names in ascending order, by code points. Main statements: membership after `insert`, and
that two sets with the same members are equal.
-/

namespace Gatehouse

/-- Adds a name to an ascending list, unless it is there. -/
def insertName (n : String) : List String → List String
  | [] => [n]
  | m :: rest => if n < m then n :: m :: rest else if n = m then m :: rest else m :: insertName n rest

theorem mem_insertName {x n : String} {ns : List String} :
    x ∈ insertName n ns ↔ x = n ∨ x ∈ ns := by
  induction ns with
  | nil => simp [insertName]
  | cons m rest ih => grind [insertName]

theorem name_lt_of_not_lt {a b : String} (h : ¬ a < b) (hne : a ≠ b) : b < a :=
  Std.lt_of_le_of_ne (Std.not_lt.1 h) (Ne.symm hne)

theorem pairwise_insertName {n : String} {ns : List String} (h : ns.Pairwise (· < ·)) :
    (insertName n ns).Pairwise (· < ·) := by
  induction ns with
  | nil => simp [insertName]
  | cons m rest ih =>
    have ⟨hm, hrest⟩ := List.pairwise_cons.1 h
    unfold insertName
    split
    · next hlt =>
      refine List.pairwise_cons.2 ⟨fun x hx => ?_, h⟩
      rcases List.mem_cons.1 hx with rfl | hx
      · exact hlt
      · exact Std.lt_trans hlt (hm x hx)
    · next hlt =>
      split
      · exact h
      · next hne =>
        refine List.pairwise_cons.2 ⟨fun x hx => ?_, ih hrest⟩
        rcases mem_insertName.1 hx with rfl | hx
        · exact name_lt_of_not_lt hlt hne
        · exact hm x hx

/-- A set of names. -/
structure NameSet where
  /-- The names, ascending. -/
  toList : List String := []
  sorted : toList.Pairwise (· < ·) := by simp

namespace NameSet

instance : EmptyCollection NameSet := ⟨{}⟩

instance : Inhabited NameSet := ⟨∅⟩

instance : Membership String NameSet := ⟨fun s n => n ∈ s.toList⟩

instance (n : String) (s : NameSet) : Decidable (n ∈ s) :=
  inferInstanceAs (Decidable (n ∈ s.toList))

/-- Adds a name. -/
def insert (s : NameSet) (n : String) : NameSet := ⟨insertName n s.toList, pairwise_insertName s.sorted⟩

/-- The set of the names of a list. -/
def ofList (ns : List String) : NameSet := ns.foldl insert ∅

theorem mem_def {n : String} {s : NameSet} : n ∈ s ↔ n ∈ s.toList := Iff.rfl

@[simp] theorem not_mem_empty (n : String) : ¬ n ∈ (∅ : NameSet) := List.not_mem_nil

@[simp] theorem mem_insert {x n : String} {s : NameSet} : x ∈ s.insert n ↔ x = n ∨ x ∈ s :=
  mem_insertName

theorem mem_foldl_insert {x : String} {ns : List String} {s : NameSet} :
    x ∈ ns.foldl insert s ↔ x ∈ s ∨ x ∈ ns := by
  induction ns generalizing s with
  | nil => simp
  | cons n ns ih => simp [ih]; grind

@[simp] theorem mem_ofList {x : String} {ns : List String} : x ∈ ofList ns ↔ x ∈ ns := by
  simp [ofList, mem_foldl_insert]

theorem eq_of_pairwise_of_mem_iff {as bs : List String} (ha : as.Pairwise (· < ·))
    (hb : bs.Pairwise (· < ·)) (h : ∀ x, x ∈ as ↔ x ∈ bs) : as = bs := by
  induction as generalizing bs with
  | nil =>
    cases bs with
    | nil => rfl
    | cons b bs => exact absurd ((h b).2 (by simp)) (by simp)
  | cons a as ih =>
    cases bs with
    | nil => exact absurd ((h a).1 (by simp)) (by simp)
    | cons b bs =>
      have ⟨ha1, ha2⟩ := List.pairwise_cons.1 ha
      have ⟨hb1, hb2⟩ := List.pairwise_cons.1 hb
      have hab : a = b := by
        rcases List.mem_cons.1 ((h a).1 (by simp)) with e | e
        · exact e
        · rcases List.mem_cons.1 ((h b).2 (by simp)) with e' | e'
          · exact e'.symm
          · exact absurd (Std.lt_trans (hb1 a e) (ha1 b e')) (Std.lt_irrefl)
      subst hab
      refine congrArg (a :: ·) (ih ha2 hb2 fun x => ?_)
      have hx := h x
      simp only [List.mem_cons] at hx
      constructor
      · intro m
        rcases hx.1 (.inr m) with rfl | m'
        · exact absurd (ha1 _ m) Std.lt_irrefl
        · exact m'
      · intro m
        rcases hx.2 (.inr m) with rfl | m'
        · exact absurd (hb1 _ m) Std.lt_irrefl
        · exact m'

/-- A set is its members. -/
theorem ext {s t : NameSet} (h : ∀ n, n ∈ s ↔ n ∈ t) : s = t := by
  have := eq_of_pairwise_of_mem_iff s.sorted t.sorted h
  cases s; cases t; simp_all

instance : DecidableEq NameSet := fun s t =>
  decidable_of_iff (s.toList = t.toList) ⟨fun h => by cases s; cases t; simp_all, fun h => h ▸ rfl⟩

end NameSet

end Gatehouse
