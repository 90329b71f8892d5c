import Gatehouse.Session.Limit
import Gatehouse.Proofs.StampText
/-!
# The zone forms of a validity end

Fourteen digits say what a clock shows, and the zone after them says how far this clock is ahead. Main statement: with a
`Z` the digits mean the point at which a clock of no offset shows them, with an offset the same second, or the same leap
second, moved back by the offset, however the offset is written; and hard limits stand in the order of these points.
-/

namespace Gatehouse

/-! ## Clock faces -/

namespace Clockface

/-- A face that fourteen digits can show: a date that exists, in a year that is written without a sign, and a time of
day, up to second 60. -/
structure IsStamped (c : Clockface) : Prop where
  year : 0 ≤ c.date.year ∧ c.date.year ≤ 9999
  date : c.date.isValid = true
  time : c.hour ≤ 23 ∧ c.minute ≤ 59 ∧ c.second ≤ 60
  nanos : c.nanos = 0

/-- The point at which a clock of no offset shows a face. -/
def instant (c : Clockface) : Instant :=
  let start := c.date.toDays * 86400 + c.hour * 3600 + c.minute * 60
  if c.second = 60 then ⟨start + 59, Instant.second⟩ else ⟨start + c.second, 0⟩

section
variable {c : Clockface}

theorem isLeap_instant (c : Clockface) : c.instant.isLeap = true ↔ c.second = 60 := by
  unfold instant
  split
  · next h => simp [h, Instant.isLeap]
  · next h => simp [h, Instant.isLeap, Instant.second]

theorem ofInstant_instant (h : c.IsStamped) : ofInstant c.instant = c := by
  obtain ⟨-, hDate, ⟨hHour, hMinute, hSecond⟩, hNanos⟩ := h
  obtain ⟨date, hour, minute, second, nanos⟩ := c
  simp only at hDate hHour hMinute hSecond hNanos
  subst hNanos
  have hDays := Date.ofDays_toDays hDate
  -- The last second of a minute, and a leap second, are the same second of the day.
  have shows : ∀ k n : Nat, k ≤ 59 → ofInstant ⟨date.toDays * 86400 + hour * 3600 + minute * 60 + k, n⟩ =
      ⟨date, hour, minute, if Instant.second ≤ n then k + 1 else k, if Instant.second ≤ n then n - Instant.second else n⟩ := by
    intro k n hk
    have hDay : (date.toDays * 86400 + hour * 3600 + minute * 60 + k) / 86400 = date.toDays := by omega
    have hClock : ((date.toDays * 86400 + hour * 3600 + minute * 60 + k) % 86400).toNat =
        hour * 3600 + minute * 60 + k := by omega
    have hHours : (hour * 3600 + minute * 60 + k) / 3600 = hour := by omega
    have hMinutes : (hour * 3600 + minute * 60 + k) / 60 % 60 = minute := by omega
    have hSeconds : (hour * 3600 + minute * 60 + k) % 60 = k := by omega
    simp only [ofInstant, Instant.date, Instant.secondOfDay, Instant.isLeap, hDay, hClock, hDays, hHours, hMinutes,
      hSeconds, decide_eq_true_eq]
  unfold instant
  simp only
  split
  · next hLeap =>
    rw [hLeap]
    exact shows 59 Instant.second (Nat.le_refl 59)
  · exact shows second 0 (by omega)

/-- The fields of a face mean the point at which it is shown. -/
theorem instant_fields (h : c.IsStamped) :
    Stamp.Fields.instant ⟨c.date, c.hour, c.minute, c.second⟩ = .ok c.instant := by
  unfold Stamp.Fields.instant instant
  simp only [h.date, ↓reduceIte]
  by_cases hSecond : c.second = 60
  · rw [if_pos hSecond, if_pos (by exact_mod_cast hSecond)]
  · rw [if_neg hSecond, if_neg (by exact_mod_cast hSecond)]

/-- Every face that is stamped is shown at a point at least a day from the ends of the calendar. -/
theorem seconds_instant (h : c.IsStamped) :
    Instant.minSeconds + 86400 ≤ c.instant.seconds ∧ c.instant.seconds + 86400 ≤ Instant.maxSeconds := by
  obtain ⟨hYear, hDate, ⟨hHour, hMinute, hSecond⟩, -⟩ := h
  have hMin : Instant.minSeconds = -8334601228800 := by decide
  have hMax : Instant.maxSeconds = 8210266876799 := by decide
  have hDays : -1000000 ≤ c.date.toDays ∧ c.date.toDays ≤ 3000000 := by
    have hDay := (Date.isDayOf_of_isValid hDate).range
    have hSum := Date.toDays_eq c.date
    simp only [Date.daysBefore] at hSum
    split at hSum <;> omega
  rw [hMin, hMax]
  unfold instant
  simp only
  split <;> simp only <;> omega

theorem fields_of_isStamped (h : c.IsStamped) (rest : List Char) :
    Stamp.fields ((c.dateFields ++ c.timeFields).flatten ++ rest) = .ok (⟨c.date, c.hour, c.minute, c.second⟩, rest) := by
  have hDate := h.date
  simp only [Date.isValid, decide_eq_true_eq] at hDate
  obtain ⟨-, -, hm, hm', hd, hd'⟩ := hDate
  exact Stamp.fields_append h.year ⟨hm, hm'⟩ ⟨hd, hd'.trans (Date.daysInMonth_le _ _)⟩ h.time rest

end

end Clockface

/-! ## Offsets -/

/-- An offset of less than a day, in hours and minutes, and whether the clock is behind. -/
structure Offset where
  behind : Bool
  hours : Nat
  minutes : Nat
  hours_le : hours ≤ 23
  minutes_le : minutes ≤ 59

namespace Offset

def sign (o : Offset) : Char := if o.behind then '-' else '+'

/-- By how many seconds the clock is ahead. -/
def ahead (o : Offset) : Int := if o.behind then -(o.hours * 3600 + o.minutes * 60) else o.hours * 3600 + o.minutes * 60

theorem ahead_mod (o : Offset) : o.ahead % 60 = 0 := by
  unfold ahead
  split <;> omega

theorem ahead_range (o : Offset) : -86400 < o.ahead ∧ o.ahead < 86400 := by
  have hHours := o.hours_le
  have hMinutes := o.minutes_le
  unfold ahead
  split <;> omega

end Offset

/-- How a stamp says its offset. -/
inductive Zone where
  | zulu
  | compact (o : Offset)
  | extended (o : Offset)
  /-- An offset of whole hours may be written without minutes. -/
  | hours (o : Offset) (whole : o.minutes = 0)

namespace Zone

def chars : Zone → List Char
  | zulu => ['Z']
  | compact o => o.sign :: (lastDigits 2 o.hours ++ lastDigits 2 o.minutes)
  | extended o => o.sign :: (lastDigits 2 o.hours ++ ':' :: lastDigits 2 o.minutes)
  | hours o _ => o.sign :: lastDigits 2 o.hours

def ahead : Zone → Int
  | zulu => 0
  | compact o | extended o | hours o _ => o.ahead

theorem ahead_mod (z : Zone) : z.ahead % 60 = 0 := by
  cases z with
  | zulu => rfl
  | compact o | extended o | hours o _ => exact o.ahead_mod

theorem ahead_range (z : Zone) : -86400 < z.ahead ∧ z.ahead < 86400 := by
  cases z with
  | zulu => decide
  | compact o | extended o | hours o _ => exact o.ahead_range

end Zone

/-- The same second, or the same leap second, some seconds earlier. -/
def Instant.back (t : Instant) (n : Int) : Instant := ⟨t.seconds - n, t.nanos⟩

/-- Whole minutes earlier, a clock shows the same second. -/
theorem Clockface.second_back (t : Instant) {n : Int} (hn : n % 60 = 0) :
    (ofInstant (t.back n)).second = (ofInstant t).second := by
  have hSame : ((t.seconds - n) % 86400).toNat % 60 = (t.seconds % 86400).toNat % 60 := by omega
  simp only [ofInstant, Instant.back, Instant.secondOfDay, hSame]
  rfl

namespace Stamp

/-! ## Reading an offset -/

theorem two_le_byteCount (a b : Char) (rest : List Char) : 2 ≤ byteCount (a :: b :: rest) := by
  have ha := a.utf8Size_pos
  have hb := b.utf8Size_pos
  simp only [byteCount, String.ofList_cons, String.utf8ByteSize_append, String.utf8ByteSize_singleton]
  omega

theorem twoDigits_lastDigits {n : Nat} (hn : n < 100) (rest : List Char) :
    twoDigits (lastDigits 2 n ++ rest) = .ok (((n / 10 : Nat), (n % 10 : Nat)), rest) := by
  have hText : lastDigits 2 n ++ rest =
      Char.ofNat ('0'.toNat + n / 10 % 10) :: Char.ofNat ('0'.toNat + n % 10) :: rest := rfl
  have hTens := isDigit_lastDigit (n / 10)
  have hOnes := isDigit_lastDigit n
  have hTens' := toNat_lastDigit (n / 10)
  have hOnes' := toNat_lastDigit n
  rw [Nat.mod_eq_of_lt (show n / 10 < 10 by omega)] at hTens hTens'
  rw [hText, Nat.mod_eq_of_lt (show n / 10 < 10 by omega), twoDigits, if_neg (Nat.not_lt.2 (two_le_byteCount ..))]
  simp only [hTens, hOnes, Bool.and_self, ↓reduceIte]
  rw [digitValue_of_isDigit hTens, digitValue_of_isDigit hOnes, hTens', hOnes', Nat.add_sub_cancel_left,
    Nat.add_sub_cancel_left]

/-- Before the minutes of an offset nothing is skipped but colons and white space. -/
theorem skipColon_digits {ds : List Char} (hDigits : ∀ c ∈ ds, c.isDigit = true) :
    ds.dropWhile (fun c => c = ':' || isBlank c) = ds := by
  cases ds with
  | nil => rfl
  | cons c ds =>
    have hc := hDigits c List.mem_cons_self
    have hColon : c ≠ ':' := by
      rintro rfl
      exact absurd hc (by decide)
    simp [hColon, isBlank_of_isDigit hc]

theorem offsetMinutes_lastDigits {m : Nat} (hm : m ≤ 59) : offsetMinutes (lastDigits 2 m) = .ok ((m : Int), []) := by
  have hText : lastDigits 2 m = Char.ofNat ('0'.toNat + m / 10 % 10) :: [Char.ofNat ('0'.toNat + m % 10)] := rfl
  have hRead := twoDigits_lastDigits (show m < 100 by omega) []
  have hMinutes : ((m / 10 : Nat) : Int) * 10 + ((m % 10 : Nat) : Int) = m := by omega
  have hLess : ((m / 10 : Nat) : Int) < 6 := by omega
  rw [List.append_nil, hText] at hRead
  rw [offsetMinutes, skipColon_digits isDigit_of_mem_lastDigits, hText]
  simp only [hRead]
  show (if ((m / 10 : Nat) : Int) < 6 then Except.ok (((m / 10 : Nat) : Int) * 10 + ((m % 10 : Nat) : Int), []) else _) = _
  rw [if_pos hLess, hMinutes]

theorem offsetMinutes_colon (cs : List Char) : offsetMinutes (':' :: cs) = offsetMinutes cs := rfl

theorem offsetSeconds_append {h m : Nat} (hh : h ≤ 23) {cs : List Char} (hm : offsetMinutes cs = .ok ((m : Int), [])) :
    offsetSeconds (lastDigits 2 h ++ cs) = .ok ((h * 3600 + m * 60 : Int), []) := by
  show (twoDigits _ >>= fun p => _) = _
  rw [twoDigits_lastDigits (by omega)]
  show (offsetMinutes cs >>= fun p => _) = _
  rw [hm]
  have hHours : ((h / 10 : Nat) : Int) * 10 + ((h % 10 : Nat) : Int) = h := by omega
  show Except.ok ((((h / 10 : Nat) : Int) * 10 + ((h % 10 : Nat) : Int)) * 3600 + m * 60, ([] : List Char)) = _
  rw [hHours]

theorem offset_sign {o : Offset} {cs : List Char}
    (h : offsetSeconds cs = .ok ((o.hours * 3600 + o.minutes * 60 : Int), [])) :
    offset (o.sign :: cs) = .ok (o.ahead, []) := by
  unfold Offset.sign Offset.ahead
  cases o.behind with
  | false => exact h
  | true =>
    show (offsetSeconds cs).map _ = _
    rw [h]
    rfl

theorem offset_chars {z : Zone} (hz : z ≠ .zulu) : offset z.chars = .ok (z.ahead, []) := by
  cases z with
  | zulu => exact absurd rfl hz
  | compact o => exact offset_sign (offsetSeconds_append o.hours_le (offsetMinutes_lastDigits o.minutes_le))
  | extended o =>
    exact offset_sign (offsetSeconds_append o.hours_le
      ((offsetMinutes_colon _).trans (offsetMinutes_lastDigits o.minutes_le)))
  | hours o whole =>
    have hRead : offsetSeconds (lastDigits 2 o.hours ++ []) = _ := offsetSeconds_append (m := 0) o.hours_le rfl
    rw [List.append_nil] at hRead
    exact offset_sign (by rw [hRead, whole])

/-! ## Reading a stamp -/

theorem getLast?_append_lastDigits (cs : List Char) (n : Nat) : (cs ++ lastDigits 2 n).getLast? ≠ some 'Z' := by
  have hDigit := isDigit_lastDigit n
  have hText : cs ++ lastDigits 2 n = (cs ++ lastDigits 1 (n / 10)) ++ [Char.ofNat ('0'.toNat + n % 10)] :=
    (List.append_assoc ..).symm
  rw [hText, List.getLast?_concat]
  intro hLast
  rw [Option.some.inj hLast] at hDigit
  exact absurd hDigit (by decide)

/-- Only the form without an offset ends in a `Z`. -/
theorem getLast?_append_chars {z : Zone} (hz : z ≠ .zulu) (cs : List Char) : (cs ++ z.chars).getLast? ≠ some 'Z' := by
  cases z with
  | zulu => exact absurd rfl hz
  | compact o =>
    have h := getLast?_append_lastDigits (cs ++ o.sign :: lastDigits 2 o.hours) o.minutes
    rwa [List.append_assoc, List.cons_append] at h
  | extended o =>
    have h := getLast?_append_lastDigits (cs ++ o.sign :: (lastDigits 2 o.hours ++ [':'])) o.minutes
    rwa [List.append_assoc, List.cons_append, List.append_assoc, List.singleton_append] at h
  | hours o whole =>
    have h := getLast?_append_lastDigits (cs ++ [o.sign]) o.hours
    rwa [List.append_assoc, List.singleton_append] at h

variable {c : Clockface}

theorem parseZulu_face (hc : c.IsStamped) : parseZulu (c.dateFields ++ c.timeFields).flatten = .ok c.instant := by
  have hRead := Clockface.fields_of_isStamped hc []
  rw [List.append_nil] at hRead
  show ((fields _ >>= fun p => _) >>= fun p => _) = _
  rw [hRead]
  exact Clockface.instant_fields hc

theorem parseOffset_face (hc : c.IsStamped) {z : Zone} (hz : z ≠ .zulu) :
    parseOffset ((c.dateFields ++ c.timeFields).flatten ++ z.chars) = .ok (c.instant.back z.ahead) := by
  show ((fields _ >>= fun p => _) >>= fun p => _) = _
  rw [Clockface.fields_of_isStamped hc]
  show ((offset _ >>= fun p => _) >>= fun p => _) = _
  rw [offset_chars hz]
  show ((Fields.instant _ >>= fun t => _) : Except Flaw Instant) = _
  rw [Clockface.instant_fields hc]
  obtain ⟨hBehind, hAhead⟩ := z.ahead_range
  obtain ⟨hLo, hHi⟩ := Clockface.seconds_instant hc
  show (if z.ahead ≤ -86400 ∨ 86400 ≤ z.ahead then _ else _) = _
  rw [if_neg (by omega)]
  show (if Instant.minSeconds ≤ c.instant.seconds - z.ahead ∧ c.instant.seconds - z.ahead ≤ Instant.maxSeconds then _
    else _) = _
  rw [if_pos (by omega)]
  rfl

theorem parseChars_face (hc : c.IsStamped) (z : Zone) :
    parseChars ((c.dateFields ++ c.timeFields).flatten ++ z.chars) = .ok (c.instant.back z.ahead) := by
  by_cases hz : z = .zulu
  · subst hz
    rw [Zone.chars, parseChars, if_pos List.getLast?_concat, List.dropLast_concat, parseZulu_face hc]
    simp [Zone.ahead, Instant.back]
  · rw [parseChars, if_neg (getLast?_append_chars hz _)]
    exact parseOffset_face hc hz

end Stamp

/-! ## Fourteen digits -/

/-- What is written in some places of a text of digits. -/
def part (cs : List Char) (start count : Nat) : List Char := (cs.drop start).take count

/-- The number that is written there. -/
def partNumber (cs : List Char) (start count : Nat) : Nat := Nat.ofDigitChars 10 (part cs start count) 0

/-- The face that fourteen digits show. -/
def Clockface.ofDigits (cs : List Char) : Clockface where
  date := ⟨partNumber cs 0 4, partNumber cs 4 2, partNumber cs 6 2⟩
  hour := partNumber cs 8 2
  minute := partNumber cs 10 2
  second := partNumber cs 12 2
  nanos := 0

/-- Fourteen digits that are a date and a time of day: the date exists, and there is a second 60. -/
structure LocalStamp where
  chars : List Char
  length_chars : chars.length = 14
  isDigit : ∀ c ∈ chars, c.isDigit = true
  date : (Clockface.ofDigits chars).date.isValid = true
  hour : (Clockface.ofDigits chars).hour ≤ 23
  minute : (Clockface.ofDigits chars).minute ≤ 59
  second : (Clockface.ofDigits chars).second ≤ 60

section
variable {cs : List Char} {start count : Nat}

theorem part_append_drop (cs : List Char) (start count : Nat) :
    part cs start count ++ cs.drop (start + count) = cs.drop start := by
  rw [part, ← List.drop_drop, List.take_append_drop]

theorem isDigit_of_mem_part (hDigits : ∀ c ∈ cs, c.isDigit = true) (start count : Nat) :
    ∀ c ∈ part cs start count, c.isDigit = true :=
  fun c hc => hDigits c (List.mem_of_mem_drop (List.mem_of_mem_take hc))

theorem length_part (h : start + count ≤ cs.length) : (part cs start count).length = count := by
  rw [part, List.length_take, List.length_drop]
  omega

theorem lastDigits_partNumber (hDigits : ∀ c ∈ cs, c.isDigit = true) (h : start + count ≤ cs.length) :
    lastDigits count (partNumber cs start count) = part cs start count := by
  have hPart := lastDigits_ofDigitChars (isDigit_of_mem_part hDigits start count)
  rwa [length_part h] at hPart

theorem partNumber_lt (hDigits : ∀ c ∈ cs, c.isDigit = true) (h : start + count ≤ cs.length) :
    partNumber cs start count < 10 ^ count := by
  have hPart := ofDigitChars_lt (isDigit_of_mem_part hDigits start count)
  rwa [length_part h] at hPart

end

namespace LocalStamp

def face (d : LocalStamp) : Clockface := .ofDigits d.chars

/-- The point that the digits mean without an offset. -/
def instant (d : LocalStamp) : Instant := d.face.instant

/-- The stamp with its zone. -/
def text (d : LocalStamp) (z : Zone) : String := String.ofList (d.chars ++ z.chars)

theorem year_face (d : LocalStamp) : 0 ≤ d.face.date.year ∧ d.face.date.year ≤ 9999 := by
  have hYear : partNumber d.chars 0 4 < 10 ^ 4 := partNumber_lt d.isDigit (by rw [d.length_chars]; decide)
  show 0 ≤ ((partNumber d.chars 0 4 : Nat) : Int) ∧ ((partNumber d.chars 0 4 : Nat) : Int) ≤ 9999
  omega

theorem isStamped_face (d : LocalStamp) : d.face.IsStamped :=
  ⟨d.year_face, d.date, ⟨d.hour, d.minute, d.second⟩, rfl⟩

/-- The digits are those that the face is written with. -/
theorem chars_eq (d : LocalStamp) : (d.face.dateFields ++ d.face.timeFields).flatten = d.chars := by
  have hPart : ∀ start count, start + count ≤ 14 →
      lastDigits count (partNumber d.chars start count) = part d.chars start count :=
    fun _ _ h => lastDigits_partNumber d.isDigit (by rwa [d.length_chars])
  have hEnd : part d.chars 12 2 = d.chars.drop 12 := by
    have h := part_append_drop d.chars 12 2
    rwa [List.drop_eq_nil_of_le (by rw [d.length_chars]), List.append_nil] at h
  have hYear : Clockface.yearChars d.face.date.year = part d.chars 0 4 := by
    rw [Clockface.yearChars, if_pos d.year_face]
    exact hPart 0 4 (by decide)
  have hFields : (d.face.dateFields ++ d.face.timeFields).flatten = part d.chars 0 4 ++ (part d.chars 4 2 ++
      (part d.chars 6 2 ++ (part d.chars 8 2 ++ (part d.chars 10 2 ++ part d.chars 12 2)))) := by
    rw [← hYear, ← hPart 4 2 (by decide), ← hPart 6 2 (by decide), ← hPart 8 2 (by decide), ← hPart 10 2 (by decide),
      ← hPart 12 2 (by decide)]
    simp [Clockface.dateFields, Clockface.timeFields, face, Clockface.ofDigits]
  rw [hFields, hEnd, part_append_drop, part_append_drop, part_append_drop, part_append_drop, part_append_drop,
    List.drop_zero]

theorem parseValidTo_text (d : LocalStamp) (z : Zone) :
    AuthRecord.parseValidTo (d.text z) = .ok (d.instant.back z.ahead) := by
  have hParse : Stamp.parse (d.text z) = .ok (d.instant.back z.ahead) := by
    rw [Stamp.parse, text, String.toList_ofList, ← d.chars_eq]
    exact Stamp.parseChars_face d.isStamped_face z
  rw [AuthRecord.parseValidTo, hParse]
  rfl

end LocalStamp

/-! ## Hard limits -/

theorem Instant.earlier_mono {a b b' : Instant} (h : b ≤ b') : a.earlier b ≤ a.earlier b' := by
  refine Instant.earlier_le_iff.2 ?_
  unfold earlier
  split
  · exact .inl (Instant.le_iff.2 (.inr ⟨rfl, Nat.le_refl _⟩))
  · exact .inr h

namespace Session

/-- A later validity end does not make a limit earlier, and makes it later if the settings set none. -/
theorem earlierLimit_mono (o : Option Instant) (t t' : Instant) : ∃ limit limit',
    earlierLimit o (some t) = some limit ∧ earlierLimit o (some t') = some limit' ∧
      (t ≤ t' → limit ≤ limit') ∧ (o = none → (limit ≤ limit' ↔ t ≤ t')) := by
  cases o with
  | none => exact ⟨t, t', rfl, rfl, id, fun _ => Iff.rfl⟩
  | some a => exact ⟨_, _, rfl, rfl, Instant.earlier_mono, nofun⟩

theorem hardLimitFrom_text {r : AuthRecord} {d : LocalStamp} {z : Zone} (h : r.validToText? = some (d.text z))
    (now : Instant) (minutes : Nat) :
    hardLimitFrom now minutes r = earlierLimit (configuredLimit now minutes) (some (d.instant.back z.ahead)) := by
  have hVouched : vouchedLimit r = some (d.instant.back z.ahead) := by
    unfold vouchedLimit AuthRecord.validTo?
    rw [h, Option.map_some, d.parseValidTo_text]
  rw [hardLimitFrom, hVouched]

end Session

open AuthRecord Session

/-- With a `Z`, fourteen digits mean the point at which a clock of no offset shows them. With an offset, however it is
written, they mean this point moved back by the offset, a leap second if the digits say so. Records with such validity
ends set their limits in the order of these points. -/
theorem validTo_zone_forms :
    (∀ d : LocalStamp, Clockface.ofInstant d.instant = d.face ∧ parseValidTo (d.text .zulu) = .ok d.instant) ∧
    (∀ (d : LocalStamp) (o : Offset), parseValidTo (d.text (.compact o)) = .ok (d.instant.back o.ahead) ∧
      parseValidTo (d.text (.extended o)) = parseValidTo (d.text (.compact o)) ∧
      ∀ whole : o.minutes = 0, parseValidTo (d.text (.hours o whole)) = parseValidTo (d.text (.compact o))) ∧
    (∀ (d : LocalStamp) (z : Zone), ((d.instant.back z.ahead).isLeap = true ↔ d.face.second = 60) ∧
      (Clockface.ofInstant (d.instant.back z.ahead)).second = d.face.second) ∧
    ∀ (d d' : LocalStamp) (z z' : Zone) (r r' : AuthRecord) (now : Instant) (minutes : Nat),
      r.validToText? = some (d.text z) → r'.validToText? = some (d'.text z') →
        let t := d.instant.back z.ahead
        let t' := d'.instant.back z'.ahead
        ∃ limit limit', hardLimitFrom now minutes r = some limit ∧ hardLimitFrom now minutes r' = some limit' ∧
          (t ≤ t' → limit ≤ limit') ∧ (minutes = 0 → (limit ≤ limit' ↔ t ≤ t')) := by
  refine ⟨fun d => ⟨Clockface.ofInstant_instant d.isStamped_face, ?_⟩, fun d o => ?_, fun d z => ?_, ?_⟩
  · rw [d.parseValidTo_text]
    simp [Zone.ahead, Instant.back]
  · simp only [d.parseValidTo_text]
    exact ⟨rfl, rfl, fun _ => rfl⟩
  · refine ⟨Clockface.isLeap_instant d.face, ?_⟩
    rw [Clockface.second_back _ z.ahead_mod, LocalStamp.instant, Clockface.ofInstant_instant d.isStamped_face]
  · intro d d' z z' r r' now minutes h h'
    obtain ⟨limit, limit', hLimit, hLimit', hMono, hExact⟩ :=
      earlierLimit_mono (configuredLimit now minutes) (d.instant.back z.ahead) (d'.instant.back z'.ahead)
    refine ⟨limit, limit', (hardLimitFrom_text h ..).trans hLimit, (hardLimitFrom_text h' ..).trans hLimit', hMono, ?_⟩
    rintro rfl
    exact hExact rfl

/-! An example: the leap second at the end of 2016, as clocks show it that are an hour ahead. -/

/-- An hour after midnight, but for a second. -/
def leapSecondAhead : LocalStamp where
  chars := "20170101005960".toList
  length_chars := by decide
  isDigit := List.all_eq_true.1 rfl
  date := by decide
  hour := by decide
  minute := by decide
  second := by decide

def oneHourAhead : Offset := ⟨false, 1, 0, by decide, by decide⟩

/-- Every form means the leap second, and an hour later the same digits without an offset follow. -/
theorem validTo_zone_forms_leapSecond :
    let t : Instant := ⟨1483228799, 1000000000⟩
    let r : AuthRecord := ⟨.ofList [(validToKey, .text "20170101005960+01")]⟩
    let r' : AuthRecord := ⟨.ofList [(validToKey, .text "20170101005960Z")]⟩
    parseValidTo "20170101005960+0100" = .ok t ∧ parseValidTo "20170101005960+01:00" = .ok t ∧
      parseValidTo "20170101005960+01" = .ok t ∧ t.isLeap = true ∧
      ∃ limit limit', hardLimitFrom ⟨0, 0⟩ 600 r = some limit ∧ hardLimitFrom ⟨0, 0⟩ 600 r' = some limit' ∧
        limit ≤ limit' := by
  intro t r r'
  have hCompact : leapSecondAhead.text (.compact oneHourAhead) = "20170101005960+0100" := by decide
  have hExtended : leapSecondAhead.text (.extended oneHourAhead) = "20170101005960+01:00" := by decide
  have hHours : leapSecondAhead.text (.hours oneHourAhead rfl) = "20170101005960+01" := by decide
  have hZulu : leapSecondAhead.text .zulu = "20170101005960Z" := by decide
  have hBack : leapSecondAhead.instant.back oneHourAhead.ahead = t := by decide
  obtain ⟨-, hForms, hLeap, hLimits⟩ := validTo_zone_forms
  obtain ⟨h, h', h''⟩ := hForms leapSecondAhead oneHourAhead
  have hRead : parseValidTo "20170101005960+0100" = .ok t := by rw [← hCompact, h, hBack]
  rw [hCompact] at h' h''
  obtain ⟨limit, limit', hLimit, hLimit', hMono, -⟩ := hLimits leapSecondAhead leapSecondAhead
    (.hours oneHourAhead rfl) .zulu r r' ⟨0, 0⟩ 600 (by rw [hHours]; rfl) (by rw [hZulu]; rfl)
  refine ⟨hRead, ?_, ?_, ?_, limit, limit', hLimit, hLimit', hMono (by decide)⟩
  · rw [← hExtended, h', hRead]
  · rw [← hHours, h'' rfl, hRead]
  · rw [← hBack]
    exact (hLeap leapSecondAhead (.compact oneHourAhead)).1.2 (by decide)

end Gatehouse
