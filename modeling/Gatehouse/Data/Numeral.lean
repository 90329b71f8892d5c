import Gatehouse.Data.ValueText
/-!
Numerals in base 10: integers of 64 bits, and fractions.
-/

namespace Gatehouse.Numeral

open ValueText (natOfDigits)

/-- A sign in front, and what follows it. -/
def sign : List Char → Bool × List Char
  | '-' :: rest => (true, rest)
  | '+' :: rest => (false, rest)
  | rest => (false, rest)

/-- The integer of 64 bits that characters write: a sign perhaps, then digits. -/
def int? (cs : List Char) : Option Int :=
  let (negative, ds) := sign cs
  let n := Int.ofNat (natOfDigits ds)
  let n := if negative then -n else n
  if ds.isEmpty || !ds.all Char.isDigit || !Value.fitsWord n then none else some n

/-- The fraction that characters write: a sign perhaps, then digits, then perhaps a point and more digits,
at least one digit in all, then perhaps an exponent. -/
def fraction? (cs : List Char) : Option Binary64 := do
  let (negative, cs) := sign cs
  let (whole, rest) := cs.span Char.isDigit
  let (places, rest) := match rest with
    | '.' :: rest => rest.span Char.isDigit
    | rest => ([], rest)
  if whole.isEmpty && places.isEmpty then none
  else
    let exponent : Int ← match rest with
      | [] => some 0
      | c :: rest =>
        if c = 'e' ∨ c = 'E' then
          let (minus, ds) := sign rest
          let n := Int.ofNat (natOfDigits ds)
          if ds.isEmpty || !ds.all Char.isDigit then none else some (if minus then -n else n)
        else none
    pure (.ofDecimal negative (natOfDigits (whole ++ places)) (exponent - Int.ofNat places.length))

end Gatehouse.Numeral
