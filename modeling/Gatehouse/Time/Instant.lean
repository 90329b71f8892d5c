import Gatehouse.Time.Calendar
/-!
Points in time: seconds since the start of 1970 and nanoseconds. A leap second is written into the
second before it, with a thousand million nanoseconds more.
-/

namespace Gatehouse

/-- A length of time. -/
structure Span where
  nanos : Int
deriving DecidableEq, Repr, Inhabited

/-- The length of some seconds. -/
def Span.ofSeconds (n : Int) : Span := ⟨n * 1000000000⟩

/-- A bare number counts seconds. -/
instance : Coe Int Span := ⟨.ofSeconds⟩

/-- A point in time. -/
structure Instant where
  seconds : Int
  nanos : Nat := 0
deriving DecidableEq, Repr, Inhabited

namespace Instant

/-- A thousand million: the nanoseconds of a second. -/
def second : Nat := 1000000000

/-- Whether the point lies in a leap second. -/
def isLeap (t : Instant) : Bool := second ≤ t.nanos

/-- The first and the last second of the calendar. -/
def minSeconds : Int := Date.toDays ⟨Date.minYear, 1, 1⟩ * 86400

def maxSeconds : Int := Date.toDays ⟨Date.maxYear, 12, 31⟩ * 86400 + 86399

/-- Whether a clock value can hold the point: its second is in the calendar. Any second can be one that a leap second
is written into. -/
def isRepresentable (t : Instant) : Bool :=
  minSeconds ≤ t.seconds ∧ t.seconds ≤ maxSeconds ∧ t.nanos < 2 * second

/-- Whether the point exists: a leap second ends a minute. -/
def isValid (t : Instant) : Bool := t.isRepresentable ∧ (t.nanos < second ∨ t.seconds % 60 = 59)

/-- Whether the first point is not after the second one. -/
def ble (a b : Instant) : Bool := a.seconds < b.seconds || (a.seconds == b.seconds && a.nanos ≤ b.nanos)

instance : LE Instant := ⟨fun a b => ble a b = true⟩

instance (a b : Instant) : Decidable (a ≤ b) := inferInstanceAs (Decidable (ble a b = true))

theorem le_iff {a b : Instant} : a ≤ b ↔ a.seconds < b.seconds ∨ a.seconds = b.seconds ∧ a.nanos ≤ b.nanos := by
  show ble a b = true ↔ _
  simp [ble]

/-- The earlier of two points. -/
def earlier (a b : Instant) : Instant := if a ≤ b then a else b

/-- The earlier of two points has come when either has. -/
theorem earlier_le_iff {a b t : Instant} : a.earlier b ≤ t ↔ a ≤ t ∨ b ≤ t := by
  unfold earlier
  split
  · next h =>
    simp only [le_iff] at h ⊢
    omega
  · next h =>
    simp only [le_iff] at h ⊢
    omega

/-- The point without its fraction of a second; a leap second stays one. -/
def truncate (t : Instant) : Instant := ⟨t.seconds, if t.isLeap then second else 0⟩

theorem truncate_le (t : Instant) : t.truncate ≤ t := by
  rw [le_iff]
  refine .inr ⟨rfl, ?_⟩
  unfold truncate
  split
  · next h => exact of_decide_eq_true h
  · exact Nat.zero_le _

/-- The second that the point shows. A leap second that does not end a minute shows as the second after it. -/
def shownSecond (t : Instant) : Instant :=
  if t.isLeap ∧ t.seconds % 60 ≠ 59 then ⟨t.seconds + 1, 0⟩ else t.truncate

theorem shownSecond_of_not_isLeap {t : Instant} (h : t.isLeap = false) : t.shownSecond = t.truncate := by
  simp [shownSecond, h]

/-- The second of the day. -/
def secondOfDay (t : Instant) : Int := t.seconds % 86400

/-- The point some seconds later. Leaving a leap second forwards counts from the second before it,
leaving it backwards from the second after it. -/
def addSeconds (t : Instant) (n : Int) : Instant :=
  if t.isLeap then
    if 0 < n then ⟨t.seconds + n, t.nanos - second⟩
    else if n < 0 then ⟨t.seconds + 1 + n, t.nanos - second⟩
    else t
  else ⟨t.seconds + n, t.nanos⟩

/-- The point some minutes later. -/
def addMinutes (t : Instant) (n : Int) : Instant := t.addSeconds (60 * n)

theorem addMinutes_of_not_isLeap {t : Instant} (h : t.isLeap = false) (n : Int) :
    t.addMinutes n = ⟨t.seconds + 60 * n, t.nanos⟩ := by
  simp [addMinutes, addSeconds, h]

theorem addMinutes_of_pos {t : Instant} {n : Int} (h : 0 < n) :
    t.addMinutes n = ⟨t.seconds + 60 * n, if t.isLeap then t.nanos - second else t.nanos⟩ := by
  unfold addMinutes addSeconds
  rw [if_pos (show 0 < 60 * n by omega)]
  split <;> rfl

/-- The nanoseconds from an earlier point to this one. A leap second counts when the other point has
a later time of day. -/
def since (t start : Instant) : Int :=
  let leaps : Int :=
    if start.secondOfDay < t.secondOfDay ∧ start.isLeap then 1
    else if t.secondOfDay < start.secondOfDay ∧ t.isLeap then -1
    else 0
  (t.seconds - start.seconds + leaps) * 1000000000 + (Int.ofNat t.nanos - Int.ofNat start.nanos)

/-- The date of the point. -/
def date (t : Instant) : Date := Date.ofDays (t.seconds / 86400)

/-- The date of a point that a clock value can hold exists. -/
theorem isValid_date {t : Instant} (h : t.isRepresentable = true) : t.date.isValid = true := by
  simp only [isRepresentable, decide_eq_true_eq] at h
  have hLo : Date.toDays ⟨Date.minYear, 1, 1⟩ ≤ t.seconds / 86400 := by
    have := h.1
    simp only [minSeconds] at this
    omega
  have hHi : t.seconds / 86400 ≤ Date.toDays ⟨Date.maxYear, 12, 31⟩ := by
    have := h.2.1
    simp only [maxSeconds] at this
    omega
  exact Date.isValid_ofDays hLo hHi

/-- Whole minutes later there is no leap second. -/
theorem isLeap_addMinutes {t : Instant} {n : Int} (h : t.isRepresentable = true) (hn : 0 < n) :
    (t.addMinutes n).isLeap = false := by
  simp only [isRepresentable, decide_eq_true_eq] at h
  rw [addMinutes_of_pos hn]
  simp only [isLeap, decide_eq_true_eq, decide_eq_false_iff_not]
  split <;> omega

/-- A clock value can hold what comes later than what it can hold, up to the last year but one. -/
theorem isRepresentable_addMinutes {t : Instant} {n : Int} (h : t.isRepresentable = true) (hn : 0 < n)
    (hYear : (t.addMinutes n).date.year < Date.maxYear) : (t.addMinutes n).isRepresentable = true := by
  have hLast : maxSeconds = 8210266876799 := by decide
  have hDays := Date.le_daysBefore_of_year_ofDays_le (Int.le_sub_one_of_lt hYear)
  rw [addMinutes_of_pos hn] at hDays ⊢
  simp only [Date.daysBefore, Date.maxYear] at hDays
  simp only [isRepresentable, isLeap, decide_eq_true_eq] at h ⊢
  split <;> omega

end Instant

end Gatehouse
