import Gatehouse.Data.Numeral
/-!
The single values of settings files, other than texts: truth values, numbers, and dates and times. A
date or a time is kept as its text in standard form.
-/

namespace Gatehouse.Toml

open Numeral (sign)
open ValueText (natOfDigits hexDigit?)

/-- Digits with single underscores between them: the digits, if that is what the characters are. -/
def digits? (isDigit : Char → Bool) : List Char → Option (List Char)
  | [] => none
  | [c] => if isDigit c then some [c] else none
  | c :: '_' :: rest => if isDigit c then (digits? isDigit rest).map (c :: ·) else none
  | c :: rest => if isDigit c then (digits? isDigit rest).map (c :: ·) else none

/-- Decimal digits without zeros in front. -/
def wholeDigits? (cs : List Char) : Option (List Char) := do
  let ds ← digits? Char.isDigit cs
  if ds.length > 1 ∧ ds.head? = some '0' then none else pure ds

/-- The number that digits of a base write. -/
def natOfBase (base : Nat) (ds : List Char) : Nat :=
  ds.foldl (fun n c => n * base + (hexDigit? c).getD 0) 0

/-- Whether a character is a digit of a base. -/
def isBaseDigit (base : Nat) (c : Char) : Bool :=
  match hexDigit? c with
  | some n => n < base
  | none => false

/-- An integer of 64 bits. -/
def word? (n : Int) : Option Value := if Value.fitsWord n then some (.int n) else none

/-- An integer: decimal, or without sign in base 16, 8 or 2. -/
def integer? (cs : List Char) : Option Value :=
  let inBase (base : Nat) (rest : List Char) : Option Value := do
    let ds ← digits? (isBaseDigit base) rest
    word? (natOfBase base ds)
  match cs with
  | '0' :: 'x' :: rest => inBase 16 rest
  | '0' :: 'o' :: rest => inBase 8 rest
  | '0' :: 'b' :: rest => inBase 2 rest
  | _ => do
    let (negative, rest) := sign cs
    let n := Int.ofNat (natOfDigits (← wholeDigits? rest))
    word? (if negative then -n else n)

/-- A fraction: a whole part, then places after a point or an exponent or both. -/
def fraction? (cs : List Char) : Option Value := do
  let (negative, rest) := sign cs
  let (whole, rest) := rest.span fun c => c.isDigit || c == '_'
  let whole ← wholeDigits? whole
  let (places, rest) ← match rest with
    | '.' :: rest =>
      let (ds, rest) := rest.span fun c => c.isDigit || c == '_'
      (digits? Char.isDigit ds).map (·, rest)
    | _ => some ([], rest)
  let exponent : Int ← match rest with
    | [] => if places.isEmpty then none else some 0
    | c :: rest =>
      if c = 'e' ∨ c = 'E' then
        let (minus, rest) := sign rest
        (digits? Char.isDigit rest).map fun ds =>
          let n := Int.ofNat (natOfDigits ds)
          if minus then -n else n
      else none
  let x := Binary64.ofDecimal negative (natOfDigits (whole ++ places)) (exponent - Int.ofNat places.length)
  if x.isFinite then pure (.float x) else none

/-- The named numbers. -/
def namedNumber? (cs : List Char) : Option Value :=
  let (negative, rest) := sign cs
  if rest = ['i', 'n', 'f'] then some (.float (.infinity negative))
  else if rest = ['n', 'a', 'n'] then some (.float .nan)
  else none

/-- The number of two digits. -/
def two? : List Char → Option (Nat × List Char)
  | a :: b :: rest => if a.isDigit && b.isDigit then some (natOfDigits [a, b], rest) else none
  | _ => none

/-- How many days a month has. -/
def daysInMonth (y m : Nat) : Nat :=
  if m = 2 then (if y % 4 = 0 ∧ (y % 100 ≠ 0 ∨ y % 400 = 0) then 29 else 28)
  else if m = 4 ∨ m = 6 ∨ m = 9 ∨ m = 11 then 30
  else 31

/-- A date, and what follows it. -/
def date? (cs : List Char) : Option (List Char × List Char) := do
  let (c, rest) ← two? cs
  let (y, rest) ← two? rest
  match rest with
  | '-' :: rest =>
    let (m, rest) ← two? rest
    match rest with
    | '-' :: rest =>
      let (d, rest) ← two? rest
      if 1 ≤ m ∧ m ≤ 12 ∧ 1 ≤ d ∧ d ≤ daysInMonth (c * 100 + y) m then pure (cs.take 10, rest) else none
    | _ => none
  | _ => none

/-- Digits without the zeros at their end. -/
def dropLastZeros (ds : List Char) : List Char := (ds.reverse.dropWhile (· == '0')).reverse

/-- The fraction of a second, to the nanosecond and with one digit at least, and what follows it. -/
def fractionOfSecond? : List Char → Option (List Char × List Char)
  | '.' :: rest =>
    let (ds, rest) := rest.span Char.isDigit
    let shown := dropLastZeros (ds.take 9)
    if ds.isEmpty then none else some ('.' :: (if shown.isEmpty then ['0'] else shown), rest)
  | rest => some ([], rest)

/-- A time of day, and what follows it; the seconds may be missing. -/
def time? (cs : List Char) : Option (List Char × List Char) := do
  let (h, rest) ← two? cs
  match rest with
  | ':' :: rest =>
    let (m, rest) ← two? rest
    if h ≤ 23 ∧ m ≤ 59 then
      match rest with
      | ':' :: rest =>
        let (s, rest) ← two? rest
        let (fraction, rest) ← fractionOfSecond? rest
        if s ≤ 60 then pure (cs.take 8 ++ fraction, rest) else none
      | rest => pure (cs.take 5, rest)
    else none
  | _ => none

/-- The offset at the end of a time. -/
def offset? : List Char → Option (List Char)
  | [] => some []
  | [c] => if c = 'Z' ∨ c = 'z' then some ['Z'] else none
  | c :: rest =>
    if c = '+' ∨ c = '-' then do
      let (h, tail) ← two? rest
      match tail with
      | ':' :: tail =>
        let (m, tail) ← two? tail
        if tail.isEmpty ∧ h ≤ 23 ∧ m ≤ 59 then
          pure ((if h = 0 ∧ m = 0 then '+' else c) :: rest)
        else none
      | _ => none
    else none

/-- A date, a time, or a date with a time and perhaps an offset. -/
def moment? (cs : List Char) : Option Value :=
  match date? cs with
  | some (d, []) => some (.text (String.ofList d))
  | some (d, c :: rest) =>
    if c = 'T' ∨ c = 't' ∨ c = ' ' then do
      let (t, rest) ← time? rest
      let o ← offset? rest
      pure (.text (String.ofList (d ++ 'T' :: t ++ o)))
    else none
  | none =>
    match time? cs with
    | some (t, []) => some (.text (String.ofList t))
    | _ => none

/-- The value of a word. -/
def scalar? (cs : List Char) : Option Value :=
  if cs = "true".toList then some (.bool true)
  else if cs = "false".toList then some (.bool false)
  else integer? cs <|> namedNumber? cs <|> fraction? cs <|> moment? cs

end Gatehouse.Toml
