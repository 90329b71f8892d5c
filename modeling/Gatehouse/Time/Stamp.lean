import Gatehouse.Time.Clockface
import Gatehouse.Text.Blank
/-!
Stamps: the compact text of a point in time, `20301231235959Z`, as records carry it. Writing gives
the zone `Z`; reading also takes a signed offset of hours and minutes.
-/

namespace Gatehouse.Stamp

/-- Why a text is no stamp. -/
inductive Flaw where
  | outOfRange
  | impossible
  | invalid
  | tooShort
  | tooLong
deriving DecidableEq, Repr

/-- The text of a flaw. -/
def Flaw.text : Flaw → String
  | .outOfRange => "input is out of range"
  | .impossible => "no possible date and time matching input"
  | .invalid => "input contains invalid characters"
  | .tooShort => "premature end of input"
  | .tooLong => "trailing input"

/-- The text of a point in time. -/
def format (t : Instant) : String :=
  let c := Clockface.ofInstant t
  String.ofList ((c.dateFields ++ c.timeFields).flatten ++ ['Z'])

/-- A reader takes what it reads off the front of the characters. -/
abbrev Reader (α : Type) := StateT (List Char) (Except Flaw) α

def digitValue (c : Char) : Int := Int.ofNat c.toNat - Int.ofNat '0'.toNat

/-- Up to `count` more digits, after the number that the digits before them wrote; a number beyond
64 bits is out of range as soon as it is. -/
def moreDigits : Nat → Int → Reader Int
  | 0, n, cs => .ok (n, cs)
  | _ + 1, n, [] => .ok (n, [])
  | count + 1, n, c :: rest =>
    if c.isDigit then
      let n := n * 10 + digitValue c
      if n < 0x8000000000000000 then moreDigits count n rest else .error .outOfRange
    else .ok (n, c :: rest)

/-- One to `count` digits. -/
def number (count : Nat) : Reader Int
  | [] => .error .tooShort
  | c :: rest => if c.isDigit then moreDigits count 0 (c :: rest) else .error .invalid

/-- A number in a range. -/
def ranged (lo hi : Int) (read : Reader Int) : Reader Int := do
  let n ← read
  if lo ≤ n ∧ n ≤ hi then pure n else throw .outOfRange

/-- What is left after white space. -/
def skipBlank (cs : List Char) : List Char := cs.dropWhile isBlank

/-- Up to four digits, or a sign and all the digits after it. -/
def signedNumber : Reader Int := fun cs =>
  match skipBlank cs with
  | '-' :: rest => (number rest.length rest).map fun (n, rest) => (-n, rest)
  | '+' :: rest => number rest.length rest
  | rest => number 4 rest

/-- A year. -/
def year : Reader Int := ranged (-0x80000000) 0x7fffffff signedNumber

/-- A field of one or two digits in a range. -/
def field (lo hi : Int) : Reader Int := ranged lo hi fun cs => number 2 (skipBlank cs)

/-- A date and a time of day, which need not exist. -/
structure Fields where
  date : Date
  hour : Int
  minute : Int
  second : Int

/-- The six fields of a stamp. -/
def fields : Reader Fields := do
  let y ← year
  let mo ← field 1 12
  let d ← field 1 31
  let h ← field 0 23
  let mi ← field 0 59
  let s ← field 0 60
  pure ⟨⟨y, mo, d⟩, h, mi, s⟩

/-- The point in time of the fields, read without offset, if the date exists. -/
def Fields.instant (f : Fields) : Except Flaw Instant :=
  if f.date.isValid then
    let start := f.date.toDays * 86400 + f.hour * 3600 + f.minute * 60
    if f.second = 60 then .ok ⟨start + 59, Instant.second⟩ else .ok ⟨start + f.second, 0⟩
  else .error .outOfRange

/-- The bytes that characters take. -/
def byteCount (cs : List Char) : Nat := (String.ofList cs).utf8ByteSize

/-- Two digits, counted in bytes when there are too few. -/
def twoDigits : Reader (Int × Int) := fun cs =>
  if byteCount cs < 2 then .error .tooShort
  else
    match cs with
    | a :: b :: rest =>
      if a.isDigit && b.isDigit then .ok ((digitValue a, digitValue b), rest) else .error .invalid
    | _ => .error .invalid

/-- The minutes of an offset; there may be none. -/
def offsetMinutes : Reader Int := fun cs =>
  match cs.dropWhile fun c => c = ':' || isBlank c with
  | [] => .ok (0, [])
  | c :: rest =>
    (twoDigits (c :: rest)).bind fun ((a, b), rest) =>
      if a < 6 then .ok (a * 10 + b, rest) else .error .outOfRange

/-- The hours and minutes of an offset, in seconds. -/
def offsetSeconds : Reader Int := do
  let (a, b) ← twoDigits
  let m ← offsetMinutes
  pure ((a * 10 + b) * 3600 + m * 60)

/-- An offset in seconds: `z`, or a sign, two digits of hours and perhaps minutes. -/
def offset : Reader Int := fun cs =>
  match skipBlank cs with
  | [] => .error .tooShort
  | c :: rest =>
    if c = 'Z' ∨ c = 'z' then .ok (0, rest)
    else if c = '+' then offsetSeconds rest
    else if c = '-' ∨ c = '−' then (offsetSeconds rest).map fun (n, rest) => (-n, rest)
    else .error .invalid

/-- Nothing may be left. -/
def finish : Reader Unit
  | [] => .ok ((), [])
  | _ :: _ => .error .tooLong

/-- A stamp without its zone letter. -/
def parseZulu (cs : List Char) : Except Flaw Instant := do
  let (f, _) ← (do let f ← fields; finish; pure f : Reader Fields) cs
  f.instant

/-- The fields of a stamp with an offset, and the offset. -/
def fieldsWithOffset : Reader (Fields × Int) := do
  let f ← fields
  let ahead ← offset
  finish
  pure (f, ahead)

/-- A stamp with an offset: the time that it writes is ahead of the point meant by the offset. -/
def parseOffset (cs : List Char) : Except Flaw Instant := do
  let ((f, ahead), _) ← fieldsWithOffset cs
  let t ← f.instant
  if ahead ≤ -86400 ∨ 86400 ≤ ahead then throw .outOfRange
  let seconds := t.seconds - ahead
  if Instant.minSeconds ≤ seconds ∧ seconds ≤ Instant.maxSeconds then pure ⟨seconds, t.nanos⟩
  else throw .impossible

/-- The characters of a stamp: a `Z` at the end is the zone. -/
def parseChars (cs : List Char) : Except Flaw Instant :=
  if cs.getLast? = some 'Z' then parseZulu cs.dropLast else parseOffset cs

/-- The point in time that a stamp means. -/
def parse (s : String) : Except Flaw Instant := parseChars s.toList

end Gatehouse.Stamp
