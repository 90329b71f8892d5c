import Gatehouse.Time.Instant
/-!
The fields that a point in time shows, and their digits: years of four digits, or with a sign outside
0 to 9999, and all else of two digits.
-/

namespace Gatehouse

/-- The last digits of a number, most significant first. -/
def lastDigits : Nat → Nat → List Char
  | 0, _ => []
  | count + 1, n => lastDigits count (n / 10) ++ [Char.ofNat ('0'.toNat + n % 10)]

/-- The digits of a number, filled up with zeros to a least count. -/
def paddedDigits (count n : Nat) : List Char :=
  let ds := Nat.toDigits 10 n
  List.replicate (count - ds.length) '0' ++ ds

/-- The fields of a point in time. -/
structure Clockface where
  date : Date
  hour : Nat
  minute : Nat
  second : Nat
  nanos : Nat
deriving DecidableEq

namespace Clockface

/-- What a point in time shows: a leap second is the second after the one that it is written into, so at the end of a
minute it is second 60. -/
def ofInstant (t : Instant) : Clockface :=
  let s := t.secondOfDay.toNat
  { date := t.date
    hour := s / 3600
    minute := s / 60 % 60
    second := if t.isLeap then s % 60 + 1 else s % 60
    nanos := if t.isLeap then t.nanos - Instant.second else t.nanos }

/-- A year. -/
def yearChars (y : Int) : List Char :=
  if 0 ≤ y ∧ y ≤ 9999 then lastDigits 4 y.toNat
  else (if y < 0 then '-' else '+') :: paddedDigits 4 y.natAbs

/-- Year, month and day. -/
def dateFields (c : Clockface) : List (List Char) :=
  [yearChars c.date.year, lastDigits 2 c.date.month.toNat, lastDigits 2 c.date.day.toNat]

/-- Hour, minute and second. -/
def timeFields (c : Clockface) : List (List Char) :=
  [lastDigits 2 c.hour, lastDigits 2 c.minute, lastDigits 2 c.second]

end Clockface

namespace Instant

/-- The fraction of a second: none, or three, six or nine digits. -/
def fractionChars (nanos : Nat) : List Char :=
  if nanos = 0 then []
  else if nanos % 1000000 = 0 then '.' :: lastDigits 3 (nanos / 1000000)
  else if nanos % 1000 = 0 then '.' :: lastDigits 6 (nanos / 1000)
  else '.' :: lastDigits 9 nanos

/-- The text of a point in time as other programs read it: `2026-10-19T12:00:00.5Z` and the like. -/
def toText (t : Instant) : String :=
  let c := Clockface.ofInstant t
  String.ofList (['-'].intercalate c.dateFields ++ ['T'] ++ [':'].intercalate c.timeFields
    ++ fractionChars c.nanos ++ ['Z'])

end Instant

end Gatehouse
