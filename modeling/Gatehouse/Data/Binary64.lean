/-!
Binary floating point numbers of 64 bits, kept as their bits so that equality is decidable, with
their exact value, their rounding to integers and the fewest decimal digits that read back.
-/

namespace Gatehouse

/-- A binary64 number. -/
structure Binary64 where
  bits : UInt64
deriving DecidableEq, Inhabited

namespace Binary64

/-- What the bits say, the sign apart: `m * 2 ^ q`, or no number of that kind. -/
inductive Magnitude where
  | finite (m : Nat) (q : Int)
  | infinite
  | nan

/-- Whether the sign bit is set. -/
def isNegative (x : Binary64) : Bool := x.bits >>> 63 == 1

/-- The exact magnitude. -/
def magnitude (x : Binary64) : Magnitude :=
  let e := ((x.bits >>> 52) &&& 0x7ff).toNat
  let f := (x.bits &&& 0xfffffffffffff).toNat
  if e = 0x7ff then (if f = 0 then .infinite else .nan)
  else if e = 0 then .finite f (-1074)
  else .finite (f + 0x10000000000000) (Int.ofNat e - 1075)

/-- Whether the number is a zero of either sign. -/
def isZero (x : Binary64) : Bool :=
  match x.magnitude with
  | .finite 0 _ => true
  | _ => false

/-- Whether the number is neither infinite nor a NaN. -/
def isFinite (x : Binary64) : Bool :=
  match x.magnitude with
  | .finite _ _ => true
  | _ => false

/-- The number nearest to `m * 10 ^ e`, a tie going to the even neighbour. -/
def ofDecimal (negative : Bool) (m : Nat) (e : Int) : Binary64 :=
  let x := if e < 0 then Float.ofScientific m true e.natAbs else Float.ofScientific m false e.natAbs
  ⟨if negative then x.toBits ||| 0x8000000000000000 else x.toBits⟩

def infinity (negative : Bool) : Binary64 := ⟨if negative then 0xfff0000000000000 else 0x7ff0000000000000⟩

def nan : Binary64 := ⟨0x7ff8000000000000⟩

/-- `m * 2 ^ q` as an integer, a half going away from zero. -/
def roundHalfAway (m : Nat) (q : Int) : Nat :=
  if 0 ≤ q then m <<< q.toNat
  else
    let d := 1 <<< (-q).toNat
    (2 * m + d) / (2 * d)

/-- The nearest word of 64 bits without sign: a half goes away from zero, what is out of range to
the nearer end, and a NaN to zero. -/
def toWord64 (x : Binary64) : Nat :=
  match x.magnitude with
  | .nan => 0
  | .infinite => if x.isNegative then 0 else UInt64.size - 1
  | .finite m q => if x.isNegative then 0 else min (roundHalfAway m q) (UInt64.size - 1)

/-- The `10`-exponent of `num / den`: the greatest `e` with `10 ^ e ≤ num / den`, searched upwards
from `num / den < 1`. -/
def exponentBelowOne (num den : Nat) : Nat → Nat → Nat
  | 0, j => j
  | fuel + 1, j => if den ≤ num * Nat.pow 10 j then j else exponentBelowOne num den fuel (j + 1)

/-- The greatest `e` with `10 ^ e ≤ num / den`. -/
def decimalExponent (num den : Nat) : Int :=
  if den ≤ num then Int.ofNat ((Nat.toDigits 10 (num / den)).length - 1)
  else - Int.ofNat (exponentBelowOne num den 400 1)

/-- A decimal `digits * 10 ^ exponent`. -/
structure Decimal where
  digits : Nat
  exponent : Int
deriving DecidableEq

/-- Moves zeros at the end of the digits into the exponent. -/
def stripZeros : Nat → Decimal → Decimal
  | 0, d => d
  | fuel + 1, d =>
    if d.digits ≠ 0 ∧ d.digits % 10 = 0 then stripZeros fuel ⟨d.digits / 10, d.exponent + 1⟩ else d

/-- The numbers of one grid `10 ^ k` next to `num / den` that lie between `lo / den` and `hi / den`,
the nearer one first; a tie goes to the even one. -/
def gridHit (num lo hi den : Nat) (closed : Bool) (k : Int) : Option Nat :=
  let scaleUp := Nat.pow 10 (-k).toNat
  let scaleDown := Nat.pow 10 k.toNat
  let below := num * scaleUp / (den * scaleDown)
  let inside (d : Nat) : Bool :=
    let here := d * den * scaleDown
    if closed then lo * scaleUp ≤ here ∧ here ≤ hi * scaleUp
    else lo * scaleUp < here ∧ here < hi * scaleUp
  let downGap := num * scaleUp - below * den * scaleDown
  let upGap := (below + 1) * den * scaleDown - num * scaleUp
  if inside below && inside (below + 1) then
    if downGap < upGap then some below
    else if upGap < downGap then some (below + 1)
    else some (if below % 2 = 0 then below else below + 1)
  else if inside below then some below
  else if inside (below + 1) then some (below + 1)
  else none

/-- Tries the grids from the coarsest one on. -/
def firstHit (num lo hi den : Nat) (closed : Bool) (top : Int) : Nat → Nat → Decimal
  | 0, n => ⟨num / den, top - n⟩
  | fuel + 1, n =>
    match gridHit num lo hi den closed (top - n) with
    | some d => ⟨d, top - n⟩
    | none => firstHit num lo hi den closed top fuel (n + 1)

/-- The decimal with the fewest digits that reads back as `m * 2 ^ q`, and of those the nearest. -/
def shortest (m : Nat) (q : Int) : Decimal :=
  if m = 0 then ⟨0, 0⟩
  else
    let up := 1 <<< (q - 2).toNat
    let den := 1 <<< (2 - q).toNat
    -- Numbers below a power of two are half as far apart as those above it.
    let narrow := m = 0x10000000000000 ∧ q > -1074
    let num := 4 * m * up
    let lo := (4 * m - if narrow then 1 else 2) * up
    let hi := (4 * m + 2) * up
    stripZeros 20 (firstHit num lo hi den (m % 2 = 0) (decimalExponent num den) 17 0)

/-- Digits with a point after the first `places` of them, filled up with zeros on either side. -/
def positional (digits : List Char) (places : Int) : List Char × List Char :=
  if places ≤ 0 then (['0'], List.replicate (-places).toNat '0' ++ digits)
  else if Int.ofNat digits.length ≤ places then
    (digits ++ List.replicate (places.toNat - digits.length) '0', [])
  else (digits.take places.toNat, digits.drop places.toNat)

/-- The text in positional notation, whatever the size; an integer has no fraction. -/
def toPlainText (x : Binary64) : String :=
  let sign := if x.isNegative then "-" else ""
  match x.magnitude with
  | .nan => "NaN"
  | .infinite => sign ++ "inf"
  | .finite m q =>
    let d := shortest m q
    let digits := Nat.toDigits 10 d.digits
    let (whole, fraction) := positional digits (Int.ofNat digits.length + d.exponent)
    sign ++ String.ofList whole ++ (if fraction.isEmpty then "" else "." ++ String.ofList fraction)

/-- The text of a finite number in a record: positional from `0.00001` to below `10 ^ 16` and always
with a fraction, else with an exponent. -/
def toRecordText (x : Binary64) : String :=
  let sign := if x.isNegative then "-" else ""
  match x.magnitude with
  | .nan | .infinite => "null"
  | .finite m q =>
    let d := shortest m q
    let digits := Nat.toDigits 10 d.digits
    let places := Int.ofNat digits.length + d.exponent
    if d.digits = 0 then sign ++ "0.0"
    else if -5 < places ∧ places ≤ 16 then
      let (whole, fraction) := positional digits places
      sign ++ String.ofList whole ++ "." ++ (if fraction.isEmpty then "0" else String.ofList fraction)
    else
      let tail := digits.drop 1
      sign ++ String.ofList (digits.take 1) ++ (if tail.isEmpty then "" else "." ++ String.ofList tail)
        ++ "e" ++ toString (places - 1)

end Binary64

end Gatehouse
