/-!
Places in a text, counted in bytes. Main statements: what is searched for is found where it first or last
occurs, and a part that is cut out at the ends of other parts is what stands between them.
-/

namespace Gatehouse.ByteOffset

/-- The byte offset of the first occurrence of a pattern that is not empty. -/
def find? (pattern : List Char) : List Char → Option Nat
  | [] => none
  | c :: rest =>
    if pattern.isPrefixOf (c :: rest) then some 0
    else (find? pattern rest).map (c.utf8Size + ·)

/-- The byte offset of the last occurrence of a character. -/
def findLast? (x : Char) : List Char → Option Nat
  | [] => none
  | c :: rest =>
    match findLast? x rest with
    | some n => some (c.utf8Size + n)
    | none => if c = x then some 0 else none

/-- The part of a text from one byte offset to another, if both fall between characters. -/
def slice? (s : String) (start stop : Nat) : Option String :=
  if h : String.Pos.Raw.IsValid s ⟨start⟩ ∧ String.Pos.Raw.IsValid s ⟨stop⟩ ∧ start ≤ stop then
    some (s.extract ⟨⟨start⟩, h.1⟩ ⟨⟨stop⟩, h.2.1⟩)
  else none

/-! ## Occurrences -/

/-- The bytes that characters take. -/
def size (cs : List Char) : Nat := (String.ofList cs).utf8ByteSize

theorem size_toList (s : String) : size s.toList = s.utf8ByteSize := by simp [size]

@[simp] theorem size_append (a b : List Char) : size (a ++ b) = size a + size b := by
  simp [size]

@[simp] theorem size_cons (c : Char) (cs : List Char) : size (c :: cs) = c.utf8Size + size cs := by
  show size ([c] ++ cs) = _
  simp [size]

section
variable {x : Char} {p a b cs : List Char} {n : Nat}

theorem find?_append_self (hp : p ≠ []) (b : List Char) : find? p (p ++ b) = some 0 := by
  cases p with
  | nil => contradiction
  | cons x p => simp [find?]

/-- A pattern does not start where its first character does not stand. -/
theorem find?_append_of_not_mem (h : x ∉ a) :
    find? (x :: p) (a ++ b) = (find? (x :: p) b).map (size a + ·) := by
  induction a with
  | nil => simp [size]
  | cons c a ih =>
    simp only [List.mem_cons, not_or] at h
    obtain ⟨hc, ha⟩ := h
    simp [find?, hc, ih ha, Function.comp_def, Nat.add_assoc]

theorem exists_of_find?_eq_some (h : find? p cs = some n) : ∃ a b, cs = a ++ (p ++ b) ∧ n = size a := by
  induction cs generalizing n with
  | nil => cases h
  | cons c cs ih =>
    unfold find? at h
    split at h
    · next hp =>
      obtain ⟨b, hb⟩ := List.isPrefixOf_iff_prefix.1 hp
      cases h
      exact ⟨[], b, hb.symm, rfl⟩
    · obtain ⟨m, hm, rfl⟩ := Option.map_eq_some_iff.1 h
      obtain ⟨a, b, rfl, rfl⟩ := ih hm
      exact ⟨c :: a, b, rfl, by simp⟩

theorem not_mem_of_find?_eq_some (h : find? [x] (a ++ b) = some (size a)) : x ∉ a := by
  intro hx
  obtain ⟨t, u, rfl, ht⟩ := List.eq_append_cons_of_mem hx
  have hfirst : find? [x] (t ++ ([x] ++ (u ++ b))) = some (size t) := by
    rw [find?_append_of_not_mem ht, find?_append_self (by simp)]
    rfl
  have hpos := x.utf8Size_pos
  rw [List.append_assoc] at h
  have hsize := Option.some.inj (hfirst.symm.trans h)
  rw [size_append, size_cons] at hsize
  omega

/-- That an occurrence is the first one does not hinge on what follows it. -/
theorem find?_of_find?_eq_some (hp : p ≠ []) (h : find? p (a ++ (p ++ b)) = some (size a)) (b' : List Char) :
    find? p (a ++ (p ++ b')) = some (size a) := by
  induction a with
  | nil => exact find?_append_self hp b'
  | cons c a ih =>
    have hlen : p.length ≤ (c :: (a ++ p)).length := by simp [Nat.le_succ_of_le]
    -- Whether the pattern stands at the front is settled before the occurrence ends.
    have hprefix : ∀ b, p.isPrefixOf (c :: (a ++ (p ++ b))) = p.isPrefixOf (c :: (a ++ p)) := by
      intro b
      rw [Bool.eq_iff_iff, List.isPrefixOf_iff_prefix, List.isPrefixOf_iff_prefix, ← List.append_assoc,
        ← List.cons_append]
      exact ⟨fun h => List.prefix_of_prefix_length_le h (List.prefix_append ..) hlen,
        fun h => h.trans (List.prefix_append ..)⟩
    have hpos := c.utf8Size_pos
    simp only [List.cons_append, find?, hprefix] at h ⊢
    split
    · next hfront =>
      rw [if_pos hfront] at h
      simp at h
      omega
    · next hfront =>
      rw [if_neg hfront] at h
      obtain ⟨n, hn, hsum⟩ := Option.map_eq_some_iff.1 h
      rw [size_cons, Nat.add_left_cancel_iff] at hsum
      rw [ih (hsum ▸ hn)]
      simp

/-- What does not occur in a text does not occur in its end. -/
theorem find?_eq_none_of_append (h : find? p (a ++ b) = none) : find? p b = none := by
  induction a with
  | nil => exact h
  | cons c a ih =>
    rw [List.cons_append, find?] at h
    split at h
    · cases h
    · exact ih (Option.map_eq_none_iff.1 h)

theorem findLast?_eq_none_iff : findLast? x cs = none ↔ x ∉ cs := by
  induction cs with
  | nil => simp [findLast?]
  | cons c cs ih =>
    cases h : findLast? x cs with
    | some n => simp [findLast?, h, show x ∈ cs by simpa [h] using ih]
    | none => simp [findLast?, h, show x ∉ cs by simpa [h] using ih, eq_comm]

theorem findLast?_append_cons (h : x ∉ b) : findLast? x (a ++ x :: b) = some (size a) := by
  induction a with
  | nil => simp [findLast?, findLast?_eq_none_iff.2 h, size]
  | cons c a ih => simp [findLast?, ih]

theorem exists_of_findLast?_eq_some (h : findLast? x cs = some n) :
    ∃ a b, cs = a ++ x :: b ∧ x ∉ b ∧ n = size a := by
  induction cs generalizing n with
  | nil => cases h
  | cons c cs ih =>
    unfold findLast? at h
    cases hrest : findLast? x cs with
    | some m =>
      rw [hrest] at h
      cases h
      obtain ⟨a, b, rfl, hb, rfl⟩ := ih hrest
      exact ⟨c :: a, b, rfl, hb, by simp⟩
    | none =>
      simp only [hrest] at h
      split at h
      · next hc =>
        cases h
        exact ⟨[], cs, congrArg (· :: cs) hc, findLast?_eq_none_iff.1 hrest, rfl⟩
      · cases h

end

/-! ## Cuts -/

/-- A text in which a pattern occurs, cut where it first does. -/
theorem exists_append_of_find? {p : List Char} {s : String} {n : Nat} (h : find? p s.toList = some n) :
    ∃ a b, s = a ++ (String.ofList p ++ b) ∧ n = a.utf8ByteSize := by
  obtain ⟨a, b, hs, rfl⟩ := exists_of_find?_eq_some h
  refine ⟨String.ofList a, String.ofList b, ?_, rfl⟩
  rw [← String.toList_inj, hs]
  simp

/-- A text in which a character occurs, cut where it last does. -/
theorem exists_append_of_findLast? {x : Char} {s : String} {n : Nat} (h : findLast? x s.toList = some n) :
    ∃ a b, s = a ++ (String.singleton x ++ b) ∧ x ∉ b.toList ∧ n = a.utf8ByteSize := by
  obtain ⟨a, b, hs, hb, rfl⟩ := exists_of_findLast?_eq_some h
  refine ⟨String.ofList a, String.ofList b, ?_, by simpa using hb, rfl⟩
  rw [← String.toList_inj, hs]
  simp

/-- Of two ways to cut a text, the shorter front is the start of the longer one. -/
theorem exists_append_of_le {a b c d : String} (h : a ++ b = c ++ d) (hle : a.utf8ByteSize ≤ c.utf8ByteSize) :
    ∃ e, c = a ++ e ∧ b = e ++ d := by
  have ha := String.Pos.splits_ofEqAppend (s := a ++ b) rfl
  have hc := String.Pos.splits_ofEqAppend h
  refine (ha.le_iff_exists_eq_append hc).1 ?_
  simpa [String.Pos.le_iff, String.Pos.Raw.le_iff, ha.offset_eq_rawEndPos, hc.offset_eq_rawEndPos] using hle

/-- A part that is cut out between two others is what stands there. -/
theorem slice?_append (a b c : String) :
    slice? (a ++ b ++ c) a.utf8ByteSize (a ++ b).utf8ByteSize = some b := by
  have ha : String.Pos.Raw.IsValid (a ++ b ++ c) ⟨a.utf8ByteSize⟩ :=
    String.Pos.Raw.isValid_iff_exists_append.2 ⟨a, b ++ c, String.append_assoc, rfl⟩
  have hb : String.Pos.Raw.IsValid (a ++ b ++ c) ⟨(a ++ b).utf8ByteSize⟩ :=
    String.Pos.Raw.isValid_iff_exists_append.2 ⟨a ++ b, c, rfl, rfl⟩
  unfold slice?
  rw [dif_pos ⟨ha, hb, by simp⟩, Option.some_inj, ← String.toByteArray_inj, String.toByteArray_extract]
  calc (a ++ b ++ c).toByteArray.extract a.utf8ByteSize (a ++ b).utf8ByteSize
      = (a.toByteArray ++ (b.toByteArray ++ c.toByteArray)).extract (a.toByteArray.size + 0)
          (a.toByteArray.size + b.toByteArray.size) := by simp [ByteArray.append_assoc]
    _ = (b.toByteArray ++ c.toByteArray).extract 0 b.toByteArray.size := ByteArray.extract_append_size_add
    _ = b.toByteArray.extract 0 b.toByteArray.size := ByteArray.extract_append_size_left
    _ = b.toByteArray := ByteArray.extract_zero_size

end Gatehouse.ByteOffset
