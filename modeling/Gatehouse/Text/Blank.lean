/-!
White space and trimming. Main statements: a trimmed text has no blank at either end, and trimming
drops blanks only.
-/

namespace Gatehouse

/-- White space, in the sense of the character database. -/
def isBlank (c : Char) : Bool :=
  let n := c.toNat
  (9 ≤ n && n ≤ 13) || n == 0x20 || n == 0x85 || n == 0xa0 || n == 0x1680
    || (0x2000 ≤ n && n ≤ 0x200a) || n == 0x2028 || n == 0x2029 || n == 0x202f || n == 0x205f
    || n == 0x3000

/-- A list of characters without the blanks at its ends. -/
def trimChars (cs : List Char) : List Char :=
  ((cs.dropWhile isBlank).reverse.dropWhile isBlank).reverse

/-- The second list is what is left of the first one between the blanks at its ends. -/
structure Trimmed (cs ts : List Char) : Prop where
  dropped : ∃ before after, cs = before ++ ts ++ after ∧ (∀ c ∈ before, isBlank c = true) ∧
    ∀ c ∈ after, isBlank c = true
  first : ∀ c, ts.head? = some c → isBlank c = false
  last : ∀ c, ts.getLast? = some c → isBlank c = false

theorem not_isBlank_of_head?_dropWhile {cs : List Char} {c : Char} (h : (cs.dropWhile isBlank).head? = some c) :
    isBlank c = false := by
  have hn := List.head?_dropWhile_not isBlank cs
  rw [h] at hn
  exact hn

theorem trimmed_trimChars (cs : List Char) : Trimmed cs (trimChars cs) := by
  -- What is left after the first blanks, read backwards, begins with the last blanks.
  have hback := List.takeWhile_append_dropWhile (p := isBlank) (l := (cs.dropWhile isBlank).reverse)
  have hrest : cs.dropWhile isBlank =
      trimChars cs ++ ((cs.dropWhile isBlank).reverse.takeWhile isBlank).reverse := by
    have hreverse := congrArg List.reverse hback
    rw [List.reverse_append, List.reverse_reverse] at hreverse
    exact hreverse.symm
  constructor
  case dropped =>
    refine ⟨cs.takeWhile isBlank, ((cs.dropWhile isBlank).reverse.takeWhile isBlank).reverse, ?_, ?_, ?_⟩
    · rw [List.append_assoc, ← hrest, List.takeWhile_append_dropWhile]
    · exact List.all_eq_true.1 List.all_takeWhile
    · intro c hc
      exact List.all_eq_true.1 List.all_takeWhile c (List.mem_reverse.1 hc)
  case first =>
    intro c hc
    have hhead : (cs.dropWhile isBlank).head? = some c := by
      rw [hrest, List.head?_append, hc]
      rfl
    exact not_isBlank_of_head?_dropWhile hhead
  case last =>
    intro c hc
    rw [trimChars, List.getLast?_reverse] at hc
    exact not_isBlank_of_head?_dropWhile hc

theorem Trimmed.eq_nil_iff {cs ts : List Char} (h : Trimmed cs ts) : ts = [] ↔ ∀ c ∈ cs, isBlank c = true := by
  obtain ⟨before, after, rfl, hb, ha⟩ := h.dropped
  constructor
  · rintro rfl c hc
    rw [List.append_nil] at hc
    exact (List.mem_append.1 hc).elim (hb c) (ha c)
  · intro hall
    cases ts with
    | nil => rfl
    | cons c ts =>
      have hblank : isBlank c = true := hall c (by simp)
      rw [h.first c rfl] at hblank
      cases hblank

/-- A text without the white space at its ends. -/
def trim (s : String) : String := String.ofList (trimChars s.toList)

/-- What is left of a text after trimming, if anything is. -/
def nonBlank? (s : String) : Option String :=
  let t := trim s
  if t.isEmpty then none else some t

theorem nonBlank?_eq_none_iff {s : String} : nonBlank? s = none ↔ ∀ c ∈ s.toList, isBlank c = true := by
  rw [← (trimmed_trimChars s.toList).eq_nil_iff]
  unfold nonBlank? trim
  simp

theorem trimmed_of_nonBlank? {s t : String} (h : nonBlank? s = some t) : Trimmed s.toList t.toList := by
  replace h : (if (trim s).isEmpty then none else some (trim s)) = some t := h
  split at h
  · cases h
  · cases h
    rw [trim, String.toList_ofList]
    exact trimmed_trimChars s.toList

end Gatehouse
