import Gatehouse.Account.AuthRecord
import Mathlib.Data.List.Induction
import Mathlib.Tactic.Ring
/-!
What the stamp of a point in time reads back as. Main statement: in the years 0 to 9999 the second
that the point shows, and outside them an error, since a year with a sign takes every digit after it
for its own. The second that a point shows is its own but for a leap second that does not end a
minute, which no stamp tells from the second after it.
-/

namespace Gatehouse

/-! Digits. -/

theorem isDigit_lastDigit (n : Nat) : (Char.ofNat ('0'.toNat + n % 10)).isDigit = true := by
  have h : n % 10 < 10 := Nat.mod_lt _ (by decide)
  generalize n % 10 = d at h
  decide +revert

theorem toNat_lastDigit (n : Nat) : (Char.ofNat ('0'.toNat + n % 10)).toNat = '0'.toNat + n % 10 := by
  have h : n % 10 < 10 := Nat.mod_lt _ (by decide)
  generalize n % 10 = d at h
  decide +revert

theorem length_lastDigits (count n : Nat) : (lastDigits count n).length = count := by
  induction count generalizing n with
  | zero => rfl
  | succ count ih => simp [lastDigits, ih]

theorem isDigit_of_mem_lastDigits {count n : Nat} : ∀ c ∈ lastDigits count n, c.isDigit = true := by
  induction count generalizing n with
  | zero => simp [lastDigits]
  | succ count ih =>
    intro c hc
    simp only [lastDigits, List.mem_append, List.mem_singleton] at hc
    cases hc with
    | inl hc => exact ih c hc
    | inr hc =>
      rw [hc]
      exact isDigit_lastDigit n

theorem isDigit_of_mem_paddedDigits {count n : Nat} : ∀ c ∈ paddedDigits count n, c.isDigit = true := by
  intro c hc
  simp only [paddedDigits, List.mem_append, List.mem_replicate] at hc
  cases hc with
  | inl hc =>
    rw [hc.2]
    rfl
  | inr hc => exact Nat.isDigit_of_mem_toDigits (by decide) (by decide) hc

theorem ofDigitChars_lastDigits (count n acc : Nat) :
    Nat.ofDigitChars 10 (lastDigits count n) acc = acc * 10 ^ count + n % 10 ^ count := by
  induction count generalizing n with
  | zero => simp [lastDigits, Nat.mod_one]
  | succ count ih =>
    rw [lastDigits, Nat.ofDigitChars_append, ih, Nat.ofDigitChars_cons, Nat.ofDigitChars_nil, toNat_lastDigit]
    have hSplit : n % 10 ^ (count + 1) = n / 10 % 10 ^ count * 10 + n % 10 := by
      rw [Nat.pow_succ, Nat.mul_comm (10 ^ count) 10, Nat.mod_mul]
      ring
    rw [hSplit, Nat.add_sub_cancel_left, Nat.pow_succ]
    ring

/-- Digits are those of the number that they write. -/
theorem lastDigits_ofDigitChars {ds : List Char} (hDigits : ∀ c ∈ ds, c.isDigit = true) :
    lastDigits ds.length (Nat.ofDigitChars 10 ds 0) = ds := by
  induction ds using List.reverseRecOn with
  | nil => rfl
  | append_singleton ds c ih =>
    have hc : c.isDigit = true := hDigits c (by simp)
    rw [Char.isDigit_iff_toNat] at hc
    have hLo : 48 ≤ c.toNat := hc.1
    have hHi : c.toNat ≤ 57 := hc.2
    rw [Nat.ofDigitChars_append, Nat.ofDigitChars_cons, Nat.ofDigitChars_nil, List.length_append, List.length_singleton]
    have hTens : (10 * Nat.ofDigitChars 10 ds 0 + (c.toNat - '0'.toNat)) / 10 = Nat.ofDigitChars 10 ds 0 := by
      show (_ + (c.toNat - 48)) / 10 = _
      omega
    have hOnes : '0'.toNat + (10 * Nat.ofDigitChars 10 ds 0 + (c.toNat - '0'.toNat)) % 10 = c.toNat := by
      show 48 + (_ + (c.toNat - 48)) % 10 = _
      omega
    rw [lastDigits, hTens, hOnes, ih fun d hd => hDigits d (by simp [hd]), Char.ofNat_toNat]

theorem ofDigitChars_lt {ds : List Char} (hDigits : ∀ c ∈ ds, c.isDigit = true) :
    Nat.ofDigitChars 10 ds 0 < 10 ^ ds.length := by
  rw [← lastDigits_ofDigitChars hDigits, ofDigitChars_lastDigits, length_lastDigits, Nat.zero_mul, Nat.zero_add]
  exact Nat.mod_lt _ (Nat.pow_pos (by decide))

theorem ofDigitChars_paddedDigits (count n : Nat) : Nat.ofDigitChars 10 (paddedDigits count n) 0 = n := by
  rw [paddedDigits, Nat.ofDigitChars_append, Nat.ofDigitChars_replicate_zero, Nat.mul_zero]
  exact Nat.ofDigitChars_toDigits (by decide) (by decide)

theorem le_ofDigitChars (cs : List Char) (acc : Nat) : acc * 10 ^ cs.length ≤ Nat.ofDigitChars 10 cs acc := by
  induction cs generalizing acc with
  | nil => simp [Nat.ofDigitChars_nil]
  | cons c cs ih =>
    rw [Nat.ofDigitChars_cons, List.length_cons, Nat.pow_succ]
    calc acc * (10 ^ cs.length * 10) = 10 * acc * 10 ^ cs.length := by ring
      _ ≤ (10 * acc + (c.toNat - '0'.toNat)) * 10 ^ cs.length := Nat.mul_le_mul_right _ (Nat.le_add_right _ _)
      _ ≤ _ := ih (10 * acc + (c.toNat - '0'.toNat))

theorem isBlank_of_isDigit {c : Char} (h : c.isDigit = true) : isBlank c = false := by
  rw [Char.isDigit_iff_toNat] at h
  have hLo : 48 ≤ c.toNat := h.1
  have hHi : c.toNat ≤ 57 := h.2
  simp only [isBlank, Bool.or_eq_false_iff, Bool.and_eq_false_iff, decide_eq_false_iff_not, beq_eq_false_iff_ne]
  omega

namespace Stamp

theorem digitValue_of_isDigit {c : Char} (h : c.isDigit = true) :
    digitValue c = ((c.toNat - '0'.toNat : Nat) : Int) := by
  rw [Char.isDigit_iff_toNat] at h
  have hLo : 48 ≤ c.toNat := h.1
  show (c.toNat : Int) - 48 = ((c.toNat - 48 : Nat) : Int)
  omega

/-- A run of digits is read as the number that it writes, unless that is too long for 64 bits. -/
theorem moreDigits_append {ds : List Char} (hDigits : ∀ c ∈ ds, c.isDigit = true) (k : Nat) {acc : Nat}
    (hAcc : acc < 0x8000000000000000) (rest : List Char) :
    moreDigits (ds.length + k) acc (ds ++ rest) =
      if Nat.ofDigitChars 10 ds acc < 0x8000000000000000 then
        moreDigits k (Nat.ofDigitChars 10 ds acc) rest
      else .error .outOfRange := by
  induction ds generalizing acc with
  | nil => simp [Nat.ofDigitChars_nil, hAcc]
  | cons c ds ih =>
    have hc : c.isDigit = true := hDigits c List.mem_cons_self
    have hRest : ∀ d ∈ ds, d.isDigit = true := fun d hd => hDigits d (List.mem_cons_of_mem c hd)
    have hNext : (acc : Int) * 10 + digitValue c = ((10 * acc + (c.toNat - '0'.toNat) : Nat) : Int) := by
      rw [digitValue_of_isDigit hc]
      push_cast
      ring
    have hLength : (c :: ds).length + k = ds.length + k + 1 := by
      rw [List.length_cons]
      omega
    rw [hLength, List.cons_append, moreDigits, if_pos hc, hNext, Nat.ofDigitChars_cons]
    generalize 10 * acc + (c.toNat - '0'.toNat) = next
    by_cases hFits : next < 0x8000000000000000
    · rw [if_pos (by exact_mod_cast hFits)]
      exact ih hRest hFits
    · -- Further digits only make the number longer.
      have hLong : ¬ Nat.ofDigitChars 10 ds next < 0x8000000000000000 := by
        have hGrows := le_ofDigitChars ds next
        have hOne : next ≤ next * 10 ^ ds.length := Nat.le_mul_of_pos_right _ (Nat.pow_pos (by decide))
        omega
      rw [if_neg (by exact_mod_cast hFits), if_neg hLong]

theorem skipBlank_append {ds : List Char} (hDigits : ∀ c ∈ ds, c.isDigit = true) (hSome : ds ≠ []) (rest : List Char) :
    skipBlank (ds ++ rest) = ds ++ rest := by
  cases ds with
  | nil => exact absurd rfl hSome
  | cons c ds =>
    have hc := isBlank_of_isDigit (hDigits c List.mem_cons_self)
    simp [skipBlank, hc]

/-- A reader that takes at least one digit takes those of a run of digits. -/
theorem number_append {ds : List Char} (hDigits : ∀ c ∈ ds, c.isDigit = true) (hSome : ds ≠ []) (count : Nat)
    (rest : List Char) : number count (ds ++ rest) = moreDigits count 0 (ds ++ rest) := by
  cases ds with
  | nil => exact absurd rfl hSome
  | cons c ds => simp [number, hDigits c List.mem_cons_self]

/-- Exactly so many digits are read as the last digits of the number that they write. -/
theorem number_lastDigits {count n : Nat} (hCount : 0 < count) (hShort : count ≤ 18) (hn : n < 10 ^ count)
    (rest : List Char) : number count (lastDigits count n ++ rest) = .ok ((n : Int), rest) := by
  have hDigits : ∀ c ∈ lastDigits count n, c.isDigit = true := isDigit_of_mem_lastDigits
  have hLength := length_lastDigits count n
  have hSome : lastDigits count n ≠ [] := by
    intro hNil
    rw [hNil] at hLength
    simp at hLength
    omega
  have hValue : Nat.ofDigitChars 10 (lastDigits count n) 0 = n := by
    rw [ofDigitChars_lastDigits, Nat.zero_mul, Nat.zero_add, Nat.mod_eq_of_lt hn]
  have hFits : n < 0x8000000000000000 := by
    have hPow : (10 : Nat) ^ count ≤ 10 ^ 18 := Nat.pow_le_pow_right (by decide) hShort
    omega
  have hRead := moreDigits_append hDigits 0 (show 0 < 0x8000000000000000 by decide) rest
  rw [hLength, hValue, if_pos hFits] at hRead
  rw [number_append hDigits hSome]
  exact hRead

theorem ranged_of_ok {lo hi n : Int} {read : Reader Int} {cs rest : List Char} (hRead : read cs = .ok (n, rest)) :
    ranged lo hi read cs = if lo ≤ n ∧ n ≤ hi then .ok (n, rest) else .error .outOfRange := by
  show (read cs >>= fun p => _) = _
  rw [hRead]
  show (if lo ≤ n ∧ n ≤ hi then pure n else throw Flaw.outOfRange : Reader Int) rest = _
  split
  · rfl
  · rfl

theorem ranged_of_error {lo hi : Int} {read : Reader Int} {cs : List Char} {flaw : Flaw}
    (hRead : read cs = .error flaw) : ranged lo hi read cs = .error flaw := by
  show (read cs >>= fun p => _) = _
  rw [hRead]
  rfl

theorem field_lastDigits {lo hi : Int} {n : Nat} (hn : lo ≤ n ∧ (n : Int) ≤ hi) (hHi : hi ≤ 99) (rest : List Char) :
    field lo hi (lastDigits 2 n ++ rest) = .ok ((n : Int), rest) := by
  have hRead : number 2 (skipBlank (lastDigits 2 n ++ rest)) = .ok ((n : Int), rest) := by
    rw [skipBlank_append isDigit_of_mem_lastDigits (by simp [lastDigits])]
    exact number_lastDigits (by decide) (by decide) (by omega) rest
  exact (ranged_of_ok hRead).trans (if_pos hn)

theorem signedNumber_of_digits {ds : List Char} (hDigits : ∀ c ∈ ds, c.isDigit = true) (hSome : ds ≠ [])
    (rest : List Char) : signedNumber (ds ++ rest) = number 4 (ds ++ rest) := by
  rw [signedNumber, skipBlank_append hDigits hSome]
  cases ds with
  | nil => exact absurd rfl hSome
  | cons c ds =>
    have hc := hDigits c List.mem_cons_self
    have hMinus : c ≠ '-' := by
      intro h
      rw [h] at hc
      exact absurd hc (by decide)
    have hPlus : c ≠ '+' := by
      intro h
      rw [h] at hc
      exact absurd hc (by decide)
    rw [List.cons_append]
    split
    · next h => exact absurd (List.cons.inj h).1 hMinus
    · next h => exact absurd (List.cons.inj h).1 hPlus
    · rfl

/-- A year of four digits is read back. -/
theorem year_yearChars {y : Int} (hy : 0 ≤ y ∧ y ≤ 9999) (rest : List Char) :
    year (Clockface.yearChars y ++ rest) = .ok (y, rest) := by
  have hRead : signedNumber (lastDigits 4 y.toNat ++ rest) = .ok ((y.toNat : Int), rest) := by
    rw [signedNumber_of_digits isDigit_of_mem_lastDigits (by simp [lastDigits])]
    exact number_lastDigits (by decide) (by decide) (by omega) rest
  rw [Int.toNat_of_nonneg hy.1] at hRead
  rw [Clockface.yearChars, if_pos hy]
  exact (ranged_of_ok hRead).trans (if_pos (by omega))

theorem signedNumber_of_sign {sign : Char} (hSign : sign = '-' ∨ sign = '+') (ds : List Char) :
    signedNumber (sign :: ds) =
      (number ds.length ds).map fun p => (if sign = '-' then -p.1 else p.1, p.2) := by
  cases hSign with
  | inl h =>
    subst h
    rfl
  | inr h =>
    subst h
    show number ds.length ds = _
    cases number ds.length ds with
    | error flaw => rfl
    | ok p => rfl

/-- All the digits after a sign are read as one number, which is out of range when it is long. -/
theorem signedNumber_of_sign_digits {sign : Char} (hSign : sign = '-' ∨ sign = '+') {ds : List Char}
    (hDigits : ∀ c ∈ ds, c.isDigit = true) (hSome : ds ≠ []) :
    signedNumber (sign :: ds) = .error .outOfRange
      ∨ ∃ n : Int, n.natAbs = Nat.ofDigitChars 10 ds 0 ∧ signedNumber (sign :: ds) = .ok (n, []) := by
  have hRead := moreDigits_append hDigits 0 (show 0 < 0x8000000000000000 by decide) []
  rw [List.append_nil, Nat.add_zero] at hRead
  have hNumber := number_append hDigits hSome ds.length []
  rw [List.append_nil] at hNumber
  rw [signedNumber_of_sign hSign, hNumber, ← Int.ofNat_zero, hRead]
  by_cases hFits : Nat.ofDigitChars 10 ds 0 < 0x8000000000000000
  · rw [if_pos hFits]
    right
    refine ⟨if sign = '-' then -(Nat.ofDigitChars 10 ds 0 : Int) else Nat.ofDigitChars 10 ds 0, ?_, rfl⟩
    split
    · simp
    · simp
  · rw [if_neg hFits]
    left
    rfl

/-- A year with a sign takes the digits of the other fields too, and so is out of range. -/
theorem year_of_signed {y : Int} (hy : ¬ (0 ≤ y ∧ y ≤ 9999)) {rest : List Char}
    (hDigits : ∀ c ∈ rest, c.isDigit = true) (hLong : 10 ≤ rest.length) :
    year (Clockface.yearChars y ++ rest) = .error .outOfRange := by
  have hAll : ∀ c ∈ paddedDigits 4 y.natAbs ++ rest, c.isDigit = true := by
    intro c hc
    rw [List.mem_append] at hc
    cases hc with
    | inl hc => exact isDigit_of_mem_paddedDigits c hc
    | inr hc => exact hDigits c hc
  have hSome : paddedDigits 4 y.natAbs ++ rest ≠ [] := by
    intro hNil
    rw [(List.append_eq_nil_iff.mp hNil).2] at hLong
    simp at hLong
  have hGreat : 10 ^ 10 ≤ Nat.ofDigitChars 10 (paddedDigits 4 y.natAbs ++ rest) 0 := by
    rw [Nat.ofDigitChars_append, ofDigitChars_paddedDigits]
    have hPow : (10 : Nat) ^ 10 ≤ 10 ^ rest.length := Nat.pow_le_pow_right (by decide) hLong
    calc 10 ^ 10 ≤ 1 * 10 ^ rest.length := by omega
      _ ≤ y.natAbs * 10 ^ rest.length := Nat.mul_le_mul_right _ (by omega)
      _ ≤ _ := le_ofDigitChars rest y.natAbs
  have hSign : (if y < 0 then '-' else '+') = '-' ∨ (if y < 0 then '-' else '+') = '+' := by
    split
    · exact .inl rfl
    · exact .inr rfl
  rw [Clockface.yearChars, if_neg hy, List.cons_append]
  cases signedNumber_of_sign_digits hSign hAll hSome with
  | inl hError => exact ranged_of_error hError
  | inr hOk =>
    obtain ⟨n, hn, hRead⟩ := hOk
    exact (ranged_of_ok hRead).trans (if_neg (by omega))

/-! The text of a point in time. -/

/-- The fields that a point in time shows, as numbers. -/
def shown (t : Instant) : Fields :=
  let c := Clockface.ofInstant t
  ⟨c.date, c.hour, c.minute, c.second⟩

/-- The fields of a stamp without its year. -/
def afterYear (t : Instant) : List Char :=
  let c := Clockface.ofInstant t
  lastDigits 2 c.date.month.toNat ++ (lastDigits 2 c.date.day.toNat
    ++ (lastDigits 2 c.hour ++ (lastDigits 2 c.minute ++ lastDigits 2 c.second)))

theorem toList_format (t : Instant) :
    (format t).toList = Clockface.yearChars t.date.year ++ afterYear t ++ ['Z'] := by
  simp [format, afterYear, Clockface.dateFields, Clockface.timeFields, Clockface.ofInstant]

theorem length_afterYear (t : Instant) : (afterYear t).length = 10 := by
  simp [afterYear, length_lastDigits]

theorem isDigit_of_mem_afterYear (t : Instant) : ∀ c ∈ afterYear t, c.isDigit = true := by
  intro c hc
  simp only [afterYear, List.mem_append] at hc
  obtain hc | hc | hc | hc | hc := hc
  all_goals exact isDigit_of_mem_lastDigits c hc

/-- What a point in time shows is within the ranges that are read. -/
theorem ofInstant_ranges (t : Instant) :
    (Clockface.ofInstant t).hour ≤ 23 ∧ (Clockface.ofInstant t).minute ≤ 59 ∧ (Clockface.ofInstant t).second ≤ 60 := by
  simp only [Clockface.ofInstant, Instant.secondOfDay]
  refine ⟨?_, ?_, ?_⟩
  · omega
  · omega
  · split <;> omega

/-- What a clock face shows is read off its digits, and the rest is left. -/
theorem fields_append {c : Clockface} (hYear : 0 ≤ c.date.year ∧ c.date.year ≤ 9999)
    (hMonth : 1 ≤ c.date.month ∧ c.date.month ≤ 12) (hDay : 1 ≤ c.date.day ∧ c.date.day ≤ 31)
    (hTime : c.hour ≤ 23 ∧ c.minute ≤ 59 ∧ c.second ≤ 60) (rest : List Char) :
    fields ((c.dateFields ++ c.timeFields).flatten ++ rest) = .ok (⟨c.date, c.hour, c.minute, c.second⟩, rest) := by
  obtain ⟨hHour, hMinute, hSecond⟩ := hTime
  simp only [Clockface.dateFields, Clockface.timeFields, List.cons_append, List.nil_append, List.flatten_cons,
    List.flatten_nil, List.append_nil, List.append_assoc]
  show (year _ >>= fun p => _) = _
  rw [year_yearChars hYear]
  show (field 1 12 _ >>= fun p => _) = _
  rw [field_lastDigits (by omega) (by decide)]
  show (field 1 31 _ >>= fun p => _) = _
  rw [field_lastDigits (by omega) (by decide)]
  show (field 0 23 _ >>= fun p => _) = _
  rw [field_lastDigits (by omega) (by decide)]
  show (field 0 59 _ >>= fun p => _) = _
  rw [field_lastDigits (by omega) (by decide)]
  show (field 0 60 _ >>= fun p => _) = _
  rw [field_lastDigits (by omega) (by decide)]
  show Except.ok _ = _
  rw [Int.toNat_of_nonneg (by omega), Int.toNat_of_nonneg (by omega)]

theorem fields_text {t : Instant} (hYear : 0 ≤ t.date.year ∧ t.date.year ≤ 9999) :
    fields (Clockface.yearChars t.date.year ++ afterYear t) = .ok (shown t, []) := by
  have hMonth : 1 ≤ t.date.month ∧ t.date.month ≤ 12 := Date.month_ofDays _
  have hDay : 1 ≤ t.date.day ∧ t.date.day ≤ 31 := by
    obtain ⟨hLo, hHi⟩ := Date.day_ofDays (t.seconds / 86400)
    exact ⟨hLo, hHi.trans (Date.daysInMonth_le _ _)⟩
  have hRead := fields_append (c := Clockface.ofInstant t) hYear hMonth hDay (ofInstant_ranges t) []
  have hText : ((Clockface.ofInstant t).dateFields ++ (Clockface.ofInstant t).timeFields).flatten ++ [] =
      Clockface.yearChars t.date.year ++ afterYear t := by
    simp [afterYear, Clockface.dateFields, Clockface.timeFields, Clockface.ofInstant]
  rw [hText] at hRead
  exact hRead

theorem fields_text_of_signed {t : Instant} (hYear : ¬ (0 ≤ t.date.year ∧ t.date.year ≤ 9999)) :
    fields (Clockface.yearChars t.date.year ++ afterYear t) = .error .outOfRange := by
  have hLong : 10 ≤ (afterYear t).length := by
    rw [length_afterYear]
  show (year _ >>= fun p => _) = _
  rw [year_of_signed hYear (isDigit_of_mem_afterYear t) hLong]
  rfl

/-- The fields that a point in time shows mean the second that it shows. -/
theorem instant_shown {t : Instant} (ht : t.isRepresentable = true) : (shown t).instant = .ok t.shownSecond := by
  have hDate : (shown t).date = t.date := rfl
  have hDays : t.date.toDays = t.seconds / 86400 := Date.toDays_ofDays _
  rw [Fields.instant, hDate, if_pos (Instant.isValid_date ht), hDays]
  simp only [shown, Clockface.ofInstant, Instant.secondOfDay, Instant.shownSecond, Instant.truncate]
  by_cases hLeap : t.isLeap = true
  · simp only [hLeap, ↓reduceIte, true_and]
    -- A leap second that ends a minute is shown as second 60, and any other one like the second after it.
    by_cases hEnds : t.seconds % 60 = 59
    · rw [if_pos (by omega), if_neg (not_not_intro hEnds)]
      congr 2
      omega
    · rw [if_neg (by omega), if_pos hEnds]
      congr 2
      omega
  · simp only [hLeap, Bool.false_eq_true, ↓reduceIte, false_and]
    rw [if_neg (by omega)]
    congr 2
    omega

theorem parse_format {t : Instant} (ht : t.isRepresentable = true) :
    parse (format t) =
      if 0 ≤ t.date.year ∧ t.date.year ≤ 9999 then .ok t.shownSecond else .error .outOfRange := by
  rw [parse, toList_format, parseChars, if_pos (by simp), List.dropLast_concat, parseZulu]
  by_cases hYear : 0 ≤ t.date.year ∧ t.date.year ≤ 9999
  · rw [if_pos hYear]
    show ((fields _ >>= fun p => _) >>= fun p => _) = _
    rw [fields_text hYear]
    exact instant_shown ht
  · rw [if_neg hYear]
    show ((fields _ >>= fun p => _) >>= fun p => _) = _
    rw [fields_text_of_signed hYear]
    rfl

end Stamp

namespace AuthRecord

theorem validTo?_withValidTo (r : AuthRecord) (t : Instant) :
    (r.withValidTo t).validTo? = some (parseValidTo (Stamp.format t)) := by
  unfold validTo? validToText? withValidTo Record.text? Record.insertText
  rw [Table.find?_insert_self]
  rfl

/-- The validity end that a record is given reads back as the second that it shows, exactly in the years that are
written without a sign: it loses its fraction, and stays a leap second if that ends a minute. -/
theorem validTo_reads_back (t : Instant) (ht : t.isRepresentable = true) :
    (0 ≤ t.date.year ∧ t.date.year ≤ 9999 →
      parseValidTo (Stamp.format t) = .ok t.shownSecond
        ∧ ∀ r : AuthRecord, (r.withValidTo t).validTo? = some (.ok t.shownSecond))
    ∧ (¬ (0 ≤ t.date.year ∧ t.date.year ≤ 9999) →
      parseValidTo (Stamp.format t) = .error ⟨Stamp.format t, .outOfRange⟩
        ∧ ∀ r : AuthRecord, (r.withValidTo t).validTo? = some (.error ⟨Stamp.format t, .outOfRange⟩)) := by
  have hParse := Stamp.parse_format ht
  constructor
  · intro hYear
    rw [if_pos hYear] at hParse
    have hRead : parseValidTo (Stamp.format t) = .ok t.shownSecond := by
      rw [parseValidTo, hParse]
      rfl
    refine ⟨hRead, fun r => ?_⟩
    rw [validTo?_withValidTo, hRead]
  · intro hYear
    rw [if_neg hYear] at hParse
    have hRead : parseValidTo (Stamp.format t) = .error ⟨Stamp.format t, .outOfRange⟩ := by
      rw [parseValidTo, hParse]
      rfl
    refine ⟨hRead, fun r => ?_⟩
    rw [validTo?_withValidTo, hRead]

/-- The leap second at the end of 2016 and the start of the year 10000. -/
theorem validTo_reads_back_leapSecond :
    (⟨1483228799, 1500000000⟩ : Instant).isRepresentable = true
    ∧ (⟨253402300800, 0⟩ : Instant).isRepresentable = true
    ∧ Stamp.format ⟨1483228799, 1500000000⟩ = "20161231235960Z"
    ∧ parseValidTo (Stamp.format ⟨1483228799, 1500000000⟩) = .ok ⟨1483228799, 1000000000⟩
    ∧ Stamp.format ⟨253402300800, 0⟩ = "+100000101000000Z"
    ∧ parseValidTo (Stamp.format ⟨253402300800, 0⟩) = .error ⟨Stamp.format ⟨253402300800, 0⟩, .outOfRange⟩ :=
  have hLeap : (⟨1483228799, 1500000000⟩ : Instant).isRepresentable = true := by decide
  have hLate : (⟨253402300800, 0⟩ : Instant).isRepresentable = true := by decide
  ⟨hLeap, hLate, by decide, ((validTo_reads_back _ hLeap).1 (by decide)).1, by decide,
    ((validTo_reads_back _ hLate).2 (by decide)).1⟩

/-- A leap second half a minute too early reads back as the second after it, and so does not stay one. -/
theorem leapSecond_reads_back_as_next :
    (⟨1483228769, 1500000000⟩ : Instant).isRepresentable = true
    ∧ (0 ≤ (⟨1483228769, 1500000000⟩ : Instant).date.year ∧ (⟨1483228769, 1500000000⟩ : Instant).date.year ≤ 9999)
    ∧ parseValidTo (Stamp.format ⟨1483228769, 1500000000⟩) = .ok ⟨1483228770, 0⟩
    ∧ parseValidTo (Stamp.format ⟨1483228769, 1500000000⟩) ≠ .ok (Instant.truncate ⟨1483228769, 1500000000⟩) := by
  have hRead : parseValidTo (Stamp.format ⟨1483228769, 1500000000⟩) = .ok ⟨1483228770, 0⟩ := by
    rw [parseValidTo, Stamp.parse_format (by decide), if_pos (by decide)]
    rfl
  refine ⟨by decide, by decide, hRead, fun hSame => ?_⟩
  rw [hRead] at hSame
  exact absurd (Except.ok.inj hSame) (by decide)

end AuthRecord

end Gatehouse
