import Gatehouse.Data.Numeral
import Gatehouse.Text.Blank
/-!
Values in the object notation for people to write: comments, keys without quotes, texts in either quote,
a comma after the last item, and numbers with a sign, in base 16 or without a digit on one side of the
point. Main entry: `Json5.ofText?`.
-/

namespace Gatehouse.Json5

open ValueText (hexDigit? numberedEscape? afterWord?)

def isLineEnd (c : Char) : Bool := c == '\n' || c == '\r' || c == '\u2028' || c == '\u2029'

def isSpace (c : Char) : Bool := (isBlank c && c ≠ '\u0085') || c == '\ufeff'

/-- What is left after the end of a long comment. -/
def afterComment? : List Char → Option (List Char)
  | '*' :: '/' :: rest => some rest
  | _ :: rest => afterComment? rest
  | [] => none

/-- What is left after blanks and comments; `fuel` bounds their number. -/
def skip? : Nat → List Char → Option (List Char)
  | 0, cs => some cs
  | fuel + 1, cs =>
    match cs.dropWhile isSpace with
    | '/' :: '/' :: rest => skip? fuel (rest.dropWhile fun c => !isLineEnd c)
    | '/' :: '*' :: rest => (afterComment? rest).bind (skip? fuel)
    | rest => some rest

/-- What is left after blanks and comments. -/
def gap? (cs : List Char) : Option (List Char) := skip? (cs.length + 1) cs

/-- The character of an escape, after its backslash. -/
def escape? : List Char → Option (Char × List Char)
  | 'b' :: rest => some ('\x08', rest)
  | 'f' :: rest => some ('\x0c', rest)
  | 'n' :: rest => some ('\n', rest)
  | 'r' :: rest => some ('\r', rest)
  | 't' :: rest => some ('\t', rest)
  | 'v' :: rest => some ('\x0b', rest)
  | '0' :: rest => if rest.head?.any Char.isDigit then none else some ('\x00', rest)
  | 'x' :: a :: b :: rest => do
    let high ← hexDigit? a
    let low ← hexDigit? b
    pure (Char.ofNat (high * 16 + low), rest)
  | 'u' :: rest => numberedEscape? rest
  | c :: rest => if c.isDigit || c == 'x' then none else some (c, rest)
  | [] => none

/-- The rest of a text, up to its closing quote; a backslash at the end of a line joins it to the next. -/
def text? (quote : Char) : Nat → List Char → List Char → Option (String × List Char)
  | 0, _, _ => none
  | _ + 1, _, [] => none
  | fuel + 1, acc, '\\' :: '\r' :: '\n' :: rest => text? quote fuel acc rest
  | fuel + 1, acc, '\\' :: c :: rest =>
    if isLineEnd c then text? quote fuel acc rest
    else do
      let (e, rest) ← escape? (c :: rest)
      text? quote fuel (e :: acc) rest
  | fuel + 1, acc, c :: rest =>
    if c = quote then some (String.ofList acc.reverse, rest)
    else if c = '\\' ∨ c = '\n' ∨ c = '\r' then none
    else text? quote fuel (c :: acc) rest

/-- Whether a character may start a name. -/
def startsName (c : Char) : Bool :=
  c.isAlpha || c == '_' || c == '$' || (0x80 ≤ c.toNat && !isSpace c)

/-- The rest of a name. -/
def name? : Nat → List Char → List Char → Option (String × List Char)
  | 0, _, _ => none
  | fuel + 1, acc, '\\' :: 'u' :: rest => do
    let (c, rest) ← numberedEscape? rest
    name? fuel (c :: acc) rest
  | fuel + 1, acc, c :: rest =>
    if startsName c || (c.isDigit && !acc.isEmpty) then name? fuel (c :: acc) rest
    else if acc.isEmpty then none
    else some (String.ofList acc.reverse, c :: rest)
  | _ + 1, acc, [] => if acc.isEmpty then none else some (String.ofList acc.reverse, [])

/-- A key: a text or a name. -/
def key? : List Char → Option (String × List Char)
  | '"' :: rest => text? '"' (rest.length + 1) [] rest
  | '\'' :: rest => text? '\'' (rest.length + 1) [] rest
  | cs => name? (cs.length + 1) [] cs

/-- Whether a character may stand in a number in base 10. -/
def isNumberChar (c : Char) : Bool := c.isDigit || c == '.' || c == 'e' || c == 'E' || c == '+' || c == '-'

/-- A number in base 10: an integer of 64 bits if it has neither point nor exponent, else a fraction. A
zero in front stands alone. -/
def decimal? (negative : Bool) (cs : List Char) : Option (Value × List Char) := do
  let (w, rest) := cs.span isNumberChar
  let whole := w.takeWhile Char.isDigit
  let signed := (if negative then '-' else '+') :: w
  if (whole.length > 1 && whole.head? = some '0') || w.head?.any (fun c => c == '+' || c == '-') then none
  else if w.all Char.isDigit then
    let n ← Numeral.int? signed
    pure (.int n, rest)
  else
    let x ← Numeral.fraction? signed
    if x.isFinite then pure (.float x, rest) else none

/-- An integer in base 16, of 32 bits at most. -/
def hexadecimal? (cs : List Char) : Option (Value × List Char) := do
  let (ds, rest) := cs.span fun c => (hexDigit? c).isSome
  let n := ds.foldl (fun n c => n * 16 + (hexDigit? c).getD 0) 0
  if ds.isEmpty || UInt32.size ≤ n then none else pure (.int n, rest)

/-- A number, and what follows it, which must not go on as a name. -/
def number? (cs : List Char) : Option (Value × List Char) := do
  let (signed, negative, rest) := match cs with
    | '-' :: rest => (true, true, rest)
    | '+' :: rest => (true, false, rest)
    | rest => (false, false, rest)
  let (v, rest) ←
    match afterWord? "Infinity".toList rest, afterWord? "NaN".toList rest, rest with
    | some rest, _, _ => some (.float (.infinity negative), rest)
    | none, some rest, _ => some (.float .nan, rest)
    | none, none, '0' :: x :: tail =>
      if x = 'x' ∨ x = 'X' then (if signed then none else hexadecimal? tail) else decimal? negative rest
    | none, none, _ => decimal? negative rest
  if rest.head?.any startsName then none else pure (v, rest)

mutual

/-- One value, without blanks in front of it; `fuel` bounds the steps that are left. -/
def value? : Nat → List Char → Option (Value × List Char)
  | 0, _ => none
  | fuel + 1, cs =>
    match cs with
    | '"' :: rest => (text? '"' (rest.length + 1) [] rest).map fun (s, rest) => (.text s, rest)
    | '\'' :: rest => (text? '\'' (rest.length + 1) [] rest).map fun (s, rest) => (.text s, rest)
    | '[' :: rest => items? fuel [] rest
    | '{' :: rest => fields? fuel ∅ rest
    | 'n' :: rest => (afterWord? "ull".toList rest).map (.null, ·)
    | 't' :: rest => (afterWord? "rue".toList rest).map (.bool true, ·)
    | 'f' :: rest => (afterWord? "alse".toList rest).map (.bool false, ·)
    | rest => number? rest

def items? : Nat → List Value → List Char → Option (Value × List Char)
  | 0, _, _ => none
  | fuel + 1, acc, cs => do
    match ← gap? cs with
    | ']' :: rest => pure (.list acc.reverse, rest)
    | cs =>
      let (v, rest) ← value? fuel cs
      match ← gap? rest with
      | ',' :: rest => items? fuel (v :: acc) rest
      | ']' :: rest => pure (.list (v :: acc).reverse, rest)
      | _ => none

def fields? : Nat → Record → List Char → Option (Value × List Char)
  | 0, _, _ => none
  | fuel + 1, acc, cs => do
    match ← gap? cs with
    | '}' :: rest => pure (.record acc, rest)
    | cs =>
      let (k, rest) ← key? cs
      match ← gap? rest with
      | ':' :: rest =>
        let (v, rest) ← value? fuel (← gap? rest)
        match ← gap? rest with
        | ',' :: rest => fields? fuel (acc.insert k v) rest
        | '}' :: rest => pure (.record (acc.insert k v), rest)
        | _ => none
      | _ => none

end

/-- The value that a text writes, if it writes one and nothing else. -/
def ofText? (s : String) : Option Value := do
  let (v, rest) ← value? (2 * s.length + 2) (← gap? s.toList)
  if (← gap? rest).isEmpty then pure v else none

end Gatehouse.Json5
