import Gatehouse.Data.Value
/-!
Values as text, in the common object notation: `Value.ofText?` reads one value and nothing else,
`Value.toText` writes one.
-/

namespace Gatehouse.ValueText

/-- What is left after the blanks of the notation. -/
def skipBlank : List Char → List Char
  | c :: rest => if c = ' ' ∨ c = '\n' ∨ c = '\t' ∨ c = '\r' then skipBlank rest else c :: rest
  | [] => []

/-- The value of a hexadecimal digit. -/
def hexDigit? (c : Char) : Option Nat :=
  if '0' ≤ c ∧ c ≤ '9' then some (c.toNat - '0'.toNat)
  else if 'a' ≤ c ∧ c ≤ 'f' then some (c.toNat - 'a'.toNat + 10)
  else if 'A' ≤ c ∧ c ≤ 'F' then some (c.toNat - 'A'.toNat + 10)
  else none

/-- Four hexadecimal digits and what follows them. -/
def hex4? : List Char → Option (Nat × List Char)
  | a :: b :: c :: d :: rest => do
    let w ← hexDigit? a
    let x ← hexDigit? b
    let y ← hexDigit? c
    let z ← hexDigit? d
    pure (w * 4096 + x * 256 + y * 16 + z, rest)
  | _ => none

/-- The character that a letter after a backslash stands for. -/
def simpleEscape? : Char → Option Char
  | '"' => some '"'
  | '\\' => some '\\'
  | '/' => some '/'
  | 'b' => some '\x08'
  | 'f' => some '\x0c'
  | 'n' => some '\n'
  | 'r' => some '\r'
  | 't' => some '\t'
  | _ => none

/-- The character of an escape by number, two of them where one does not do. -/
def numberedEscape? (rest : List Char) : Option (Char × List Char) := do
  let (u, rest) ← hex4? rest
  if 0xD800 ≤ u ∧ u ≤ 0xDBFF then
    match rest with
    | '\\' :: 'u' :: rest =>
      let (v, rest) ← hex4? rest
      if 0xDC00 ≤ v ∧ v ≤ 0xDFFF then
        pure (Char.ofNat (0x10000 + (u - 0xD800) * 1024 + (v - 0xDC00)), rest)
      else none
    | _ => none
  else if 0xDC00 ≤ u ∧ u ≤ 0xDFFF then none
  else pure (Char.ofNat u, rest)

/-- The rest of a quoted text, up to its closing quote. -/
def readText : Nat → List Char → List Char → Option (String × List Char)
  | 0, _, _ => none
  | _ + 1, _, [] => none
  | _ + 1, acc, '"' :: rest => some (String.ofList acc.reverse, rest)
  | fuel + 1, acc, '\\' :: 'u' :: rest => do
    let (c, rest) ← numberedEscape? rest
    readText fuel (c :: acc) rest
  | fuel + 1, acc, '\\' :: e :: rest => do
    let c ← simpleEscape? e
    readText fuel (c :: acc) rest
  | fuel + 1, acc, c :: rest =>
    if c.toNat < 0x20 ∨ c = '\\' then none else readText fuel (c :: acc) rest

/-- The number that decimal digits write. -/
def natOfDigits (ds : List Char) : Nat := ds.foldl (fun n c => n * 10 + (c.toNat - '0'.toNat)) 0

/-- A number. Without fraction and exponent it is an integer as far as words of 64 bits reach. -/
def readNumber (cs : List Char) : Option (Value × List Char) :=
  let (negative, cs) := match cs with
    | '-' :: rest => (true, rest)
    | _ => (false, cs)
  let (whole, rest) := cs.span Char.isDigit
  if whole.isEmpty ∨ (whole.length > 1 ∧ whole.head? = some '0') then none
  else
    let (fraction, rest, fractionOk) := match rest with
      | '.' :: tail =>
        let (ds, tail) := tail.span Char.isDigit
        (some ds, tail, !ds.isEmpty)
      | _ => (none, rest, true)
    let (exponent, rest, exponentOk) := match rest with
      | c :: tail =>
        if c = 'e' ∨ c = 'E' then
          let (minus, tail) := match tail with
            | '-' :: t => (true, t)
            | '+' :: t => (false, t)
            | t => (false, t)
          let (ds, tail) := tail.span Char.isDigit
          let n := Int.ofNat (natOfDigits ds)
          (some (if minus then -n else n), tail, !ds.isEmpty)
        else (none, rest, true)
      | [] => (none, rest, true)
    if !fractionOk || !exponentOk then none
    else
      let n := natOfDigits whole
      match fraction, exponent with
      | none, none =>
        if negative then
          if n = 0 ∨ n > 0x8000000000000000 then some (.float (.ofDecimal true n 0), rest)
          else some (.int (-Int.ofNat n), rest)
        else if n < UInt64.size then some (.int n, rest)
        else some (.float (.ofDecimal false n 0), rest)
      | _, _ =>
        let ds := fraction.getD []
        let m := natOfDigits (whole ++ ds)
        let e := exponent.getD 0 - Int.ofNat ds.length
        let x := Binary64.ofDecimal negative m e
        if x.isFinite then some (.float x, rest) else none

/-- What is left after a given word. -/
def afterWord? : List Char → List Char → Option (List Char)
  | [], rest => some rest
  | w :: ws, c :: cs => if w = c then afterWord? ws cs else none
  | _ :: _, [] => none

mutual

/-- One value; `fuel` bounds the steps that are left. -/
def readValue : Nat → List Char → Option (Value × List Char)
  | 0, _ => none
  | fuel + 1, cs =>
    match skipBlank cs with
    | 'n' :: rest => (afterWord? ['u', 'l', 'l'] rest).map (.null, ·)
    | 't' :: rest => (afterWord? ['r', 'u', 'e'] rest).map (.bool true, ·)
    | 'f' :: rest => (afterWord? ['a', 'l', 's', 'e'] rest).map (.bool false, ·)
    | '"' :: rest => do
      let (s, rest) ← readText (rest.length + 1) [] rest
      pure (.text s, rest)
    | '[' :: rest =>
      match skipBlank rest with
      | ']' :: rest => some (.list [], rest)
      | rest => readItems fuel [] rest
    | '{' :: rest =>
      match skipBlank rest with
      | '}' :: rest => some (.record ∅, rest)
      | rest => readFields fuel ∅ rest
    | rest => readNumber rest

def readItems : Nat → List Value → List Char → Option (Value × List Char)
  | 0, _, _ => none
  | fuel + 1, acc, cs => do
    let (v, rest) ← readValue fuel cs
    match skipBlank rest with
    | ',' :: rest => readItems fuel (v :: acc) rest
    | ']' :: rest => pure (.list (v :: acc).reverse, rest)
    | _ => none

def readFields : Nat → Record → List Char → Option (Value × List Char)
  | 0, _, _ => none
  | fuel + 1, acc, cs =>
    match skipBlank cs with
    | '"' :: rest => do
      let (k, rest) ← readText (rest.length + 1) [] rest
      match skipBlank rest with
      | ':' :: rest =>
        let (v, rest) ← readValue fuel rest
        match skipBlank rest with
        | ',' :: rest => readFields fuel (acc.insert k v) rest
        | '}' :: rest => pure (.record (acc.insert k v), rest)
        | _ => none
      | _ => none
    | _ => none

end

/-- A hexadecimal digit. -/
def hexChar (n : Nat) : Char := Char.ofNat (if n < 10 then '0'.toNat + n else 'a'.toNat + (n - 10))

/-- A character inside quotes: quotes, backslashes and control characters are escaped. -/
def escape (c : Char) : List Char :=
  if c = '"' then ['\\', '"']
  else if c = '\\' then ['\\', '\\']
  else if c = '\n' then ['\\', 'n']
  else if c = '\r' then ['\\', 'r']
  else if c = '\t' then ['\\', 't']
  else if c.toNat < 0x20 then ['\\', 'u', '0', '0', hexChar (c.toNat / 16), hexChar (c.toNat % 16)]
  else [c]

/-- A quoted text. -/
def quote (s : String) : String := "\"" ++ String.ofList (s.toList.flatMap escape) ++ "\""

mutual

/-- The text of a value. -/
def write : Value → String
  | .null => "null"
  | .bool b => if b then "true" else "false"
  | .int n => toString n
  | .float x => x.toRecordText
  | .text s => quote s
  | .list items => "[" ++ writeItems items ++ "]"
  | .record ⟨fields⟩ => "\x7b" ++ writeFields fields ++ "\x7d"

def writeItems : List Value → String
  | [] => ""
  | [v] => write v
  | v :: vs => write v ++ "," ++ writeItems vs

def writeFields : List (String × Value) → String
  | [] => ""
  | [(k, v)] => quote k ++ ":" ++ write v
  | (k, v) :: fs => quote k ++ ":" ++ write v ++ "," ++ writeFields fs

end

end ValueText

namespace Value

/-- The value that a text writes, if it writes one and nothing else. -/
def ofText? (s : String) : Option Value :=
  let cs := s.toList
  match ValueText.readValue (2 * cs.length + 2) cs with
  | some (v, rest) => if (ValueText.skipBlank rest).isEmpty then some v else none
  | none => none

/-- The text of a value. -/
def toText (v : Value) : String := ValueText.write v

end Value

end Gatehouse
