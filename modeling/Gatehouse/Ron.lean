import Gatehouse.Data.Numeral
import Gatehouse.Text.Blank
/-!
Values in the notation of typed objects: structures `(key: value)` with or without a name, tuples, lists,
maps with any texts for keys, and optional values. Names of types count for nothing. Main entry:
`Ron.ofText?`.
-/

namespace Gatehouse.Ron

open ValueText (hexDigit? afterWord?)

def isSpace (c : Char) : Bool :=
  let n := c.toNat
  c == ' ' || (9 ≤ n && n ≤ 13) || n == 0x85 || n == 0x200e || n == 0x200f || n == 0x2028 || n == 0x2029

/-- What is left after the end of a long comment; such comments may lie in each other. -/
def afterComment? : (depth : Nat) → List Char → Option (List Char)
  | 0, '*' :: '/' :: rest => some rest
  | depth + 1, '*' :: '/' :: rest => afterComment? depth rest
  | depth, '/' :: '*' :: rest => afterComment? (depth + 1) rest
  | depth, _ :: rest => afterComment? depth rest
  | _, [] => none

/-- What is left after blanks and comments; `fuel` bounds their number. -/
def skip? : Nat → List Char → Option (List Char)
  | 0, cs => some cs
  | fuel + 1, cs =>
    match cs.dropWhile isSpace with
    | '/' :: '/' :: rest => skip? fuel (rest.dropWhile (· ≠ '\n'))
    | '/' :: '*' :: rest => (afterComment? 0 rest).bind (skip? fuel)
    | rest => some rest

/-- What is left after blanks and comments. -/
def gap? (cs : List Char) : Option (List Char) := skip? (cs.length + 1) cs

/-- The number that digits of a base write. -/
def natOfBase (base : Nat) (ds : List Char) : Nat :=
  ds.foldl (fun n c => n * base + (hexDigit? c).getD 0) 0

/-- The character with a number in base 16. -/
def numbered? (ds : List Char) : Option Char :=
  let n := natOfBase 16 ds
  if ds.isEmpty || !ds.all (fun c => (hexDigit? c).isSome) then none
  else if n < 0xd800 ∨ (0xdfff < n ∧ n < 0x110000) then some (Char.ofNat n)
  else none

/-- The character of an escape, after its backslash. -/
def escape? : List Char → Option (Char × List Char)
  | '"' :: rest => some ('"', rest)
  | '\'' :: rest => some ('\'', rest)
  | '\\' :: rest => some ('\\', rest)
  | 'n' :: rest => some ('\n', rest)
  | 'r' :: rest => some ('\r', rest)
  | 't' :: rest => some ('\t', rest)
  | '0' :: rest => some ('\x00', rest)
  | 'x' :: a :: b :: rest => (numbered? [a, b]).map (·, rest)
  | 'u' :: '{' :: rest =>
    let ds := rest.takeWhile (· ≠ '\x7d')
    if 6 < ds.length then none else (numbered? ds).map (·, rest.drop (ds.length + 1))
  | _ => none

/-- The rest of a text, up to its closing quote. -/
def text? : Nat → List Char → List Char → Option (String × List Char)
  | 0, _, _ => none
  | _ + 1, _, [] => none
  | fuel + 1, acc, c :: rest =>
    if c = '"' then some (String.ofList acc.reverse, rest)
    else if c = '\\' then do
      let (e, rest) ← escape? rest
      text? fuel (e :: acc) rest
    else text? fuel (c :: acc) rest

/-- The rest of a text without escapes, up to a quote that so many number signs follow. -/
def rawText? (signs : Nat) : List Char → List Char → Option (String × List Char)
  | _, [] => none
  | acc, c :: rest =>
    if c = '"' ∧ rest.take signs = List.replicate signs '#' then
      some (String.ofList acc.reverse, rest.drop signs)
    else rawText? signs (c :: acc) rest

/-- A single character, after the quote in front of it. -/
def char? : List Char → Option (Char × List Char)
  | '\\' :: rest => do
    let (c, rest) ← escape? rest
    if rest.head? = some '\'' then pure (c, rest.drop 1) else none
  | c :: '\'' :: rest => some (c, rest)
  | _ => none

def startsName (c : Char) : Bool := c.isAlpha || c == '_' || (0x80 ≤ c.toNat && !isSpace c)

def isNameChar (c : Char) : Bool := startsName c || c.isDigit

/-- A name, and what follows it. -/
def name? (cs : List Char) : Option (String × List Char) :=
  if cs.head?.any startsName then
    some (String.ofList (cs.takeWhile isNameChar), cs.dropWhile isNameChar)
  else none

/-- Whether a character may stand in a number. -/
def isNumberChar (c : Char) : Bool := c.isAlphanum || c == '_' || c == '.' || c == '+' || c == '-'

/-- An integer of 64 bits. -/
def integer? (negative : Bool) (base : Nat) (ds : List Char) : Option Value :=
  let n := Int.ofNat (natOfBase base ds)
  let n := if negative then -n else n
  if ds.isEmpty || !ds.all (fun c => (hexDigit? c).any (· < base)) || !Value.fitsWord n then none
  else some (.int n)

/-- A number, in which underscores count for nothing. -/
def number? (cs : List Char) : Option (Value × List Char) := do
  let (w, rest) := cs.span isNumberChar
  let (negative, w) := Numeral.sign w
  if w.head? = some '_' then none
  else
    let v ← match w.filter (· ≠ '_') with
      | '0' :: 'x' :: ds => integer? negative 16 ds
      | '0' :: 'o' :: ds => integer? negative 8 ds
      | '0' :: 'b' :: ds => integer? negative 2 ds
      | ds =>
        if ds = "inf".toList then some (.float (.infinity negative))
        else if ds = "NaN".toList then some (.float .nan)
        else if ds.all Char.isDigit then integer? negative 10 ds
        else (Numeral.fraction? ((if negative then '-' else '+') :: ds)).map .float
    pure (v, rest)

mutual

/-- One value, without blanks in front of it; `fuel` bounds the steps that are left. -/
def value? : Nat → List Char → Option (Value × List Char)
  | 0, _ => none
  | fuel + 1, cs =>
    match cs with
    | '(' :: rest => do body? fuel (← gap? rest)
    | '[' :: rest => items? fuel ']' [] rest
    | '{' :: rest => entries? fuel ∅ rest
    | '"' :: rest => (text? (rest.length + 1) [] rest).map fun (s, rest) => (.text s, rest)
    | '\'' :: rest => (char? rest).map fun (c, rest) => (.text c.toString, rest)
    | 'r' :: '"' :: rest => (rawText? 0 [] rest).map fun (s, rest) => (.text s, rest)
    | 'r' :: '#' :: rest => do
      let signs := (rest.takeWhile (· == '#')).length
      match rest.drop signs with
      | '"' :: rest => (rawText? (signs + 1) [] rest).map fun (s, rest) => (.text s, rest)
      | _ => none
    | cs =>
      match name? cs with
      | none => number? cs
      | some (name, rest) =>
        if name = "true" then some (.bool true, rest)
        else if name = "false" then some (.bool false, rest)
        else if name = "None" then some (.null, rest)
        else if name = "inf" then some (.float (.infinity false), rest)
        else if name = "NaN" then some (.float .nan, rest)
        else do
          match ← gap? rest with
          | '(' :: inner =>
            if name = "Some" then
              let (v, rest) ← value? fuel (← gap? inner)
              match ← gap? rest with
              | ')' :: rest => pure (v, rest)
              | _ => none
            else body? fuel (← gap? inner)
          | _ => pure (.null, rest)

/-- What stands in round brackets, without blanks in front of it: nothing, a structure or a tuple. -/
def body? : Nat → List Char → Option (Value × List Char)
  | 0, _ => none
  | fuel + 1, cs => do
    match cs with
    | ')' :: rest => pure (.null, rest)
    | cs =>
      let named : Bool ← match name? cs with
        | some (_, rest) => (gap? rest).map fun rest => rest.head? == some ':'
        | none => some false
      if named then fields? fuel ∅ cs else items? fuel ')' [] cs

/-- The rest of a list or a tuple, up to the bracket that closes it. -/
def items? : Nat → (close : Char) → List Value → List Char → Option (Value × List Char)
  | 0, _, _, _ => none
  | fuel + 1, close, acc, cs => do
    match ← gap? cs with
    | [] => none
    | c :: tail =>
      if c = close then pure (.list acc.reverse, tail)
      else
        let (v, rest) ← value? fuel (c :: tail)
        match ← gap? rest with
        | ',' :: rest => items? fuel close (v :: acc) rest
        | c :: rest => if c = close then pure (.list (v :: acc).reverse, rest) else none
        | [] => none

/-- The rest of a structure. -/
def fields? : Nat → Record → List Char → Option (Value × List Char)
  | 0, _, _ => none
  | fuel + 1, acc, cs => do
    match ← gap? cs with
    | ')' :: rest => pure (.record acc, rest)
    | cs =>
      let (k, rest) ← name? cs
      match ← gap? rest with
      | ':' :: rest =>
        let (v, rest) ← value? fuel (← gap? rest)
        match ← gap? rest with
        | ',' :: rest => fields? fuel (acc.insert k v) rest
        | ')' :: rest => pure (.record (acc.insert k v), rest)
        | _ => none
      | _ => none

/-- The rest of a map. -/
def entries? : Nat → Record → List Char → Option (Value × List Char)
  | 0, _, _ => none
  | fuel + 1, acc, cs => do
    match ← gap? cs with
    | '\x7d' :: rest => pure (.record acc, rest)
    | cs =>
      let (k, rest) ← value? fuel cs
      let k ← k.text?
      match ← gap? rest with
      | ':' :: rest =>
        let (v, rest) ← value? fuel (← gap? rest)
        match ← gap? rest with
        | ',' :: rest => entries? fuel (acc.insert k v) rest
        | '\x7d' :: rest => pure (.record (acc.insert k v), rest)
        | _ => none
      | _ => none

end

/-- What is left after the lines in front that switch on extensions of the notation. -/
def afterExtensions? : Nat → List Char → Option (List Char)
  | 0, _ => none
  | fuel + 1, cs => do
    let cs ← gap? cs
    match afterWord? "#![enable(".toList cs with
    | none => pure cs
    | some rest =>
      match rest.dropWhile (· ≠ ')') with
      | ')' :: ']' :: rest => afterExtensions? fuel rest
      | _ => none

/-- How deep values may lie in each other. -/
def nestingLimit : Nat := 128

/-- The value that a text writes, if it writes one and nothing else. -/
def ofText? (s : String) : Option Value := do
  let cs ← afterExtensions? (s.length + 1) s.toList
  let (v, rest) ← value? (3 * s.length + 3) cs
  if (← gap? rest).isEmpty && v.depth ≤ nestingLimit then pure v else none

end Gatehouse.Ron
