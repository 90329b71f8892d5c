import Gatehouse.Data.ValueText
/-!
The texts of settings files: quoted with or without escapes, on one line or on several.
-/

namespace Gatehouse.Toml

open ValueText (hexDigit?)

/-- Whether a character may stand in a text or a comment: no control character but the tab. -/
def isPrintable (c : Char) : Bool := c == '\t' || (0x20 ≤ c.toNat && c.toNat ≠ 0x7f)

/-- The end of a line at the front, and what follows it. -/
def newline? : List Char → Option (List Char)
  | '\n' :: rest => some rest
  | '\r' :: '\n' :: rest => some rest
  | _ => none

def isSpace (c : Char) : Bool := c == ' ' || c == '\t'

/-- What is left after blanks and line ends. -/
def skipSpaceAndLines : List Char → List Char
  | '\r' :: '\n' :: rest => skipSpaceAndLines rest
  | c :: rest => if isSpace c || c == '\n' then skipSpaceAndLines rest else c :: rest
  | [] => []

/-- The character with a number in so many hexadecimal digits. -/
def numbered? (count : Nat) (cs : List Char) : Option (Char × List Char) := do
  let ds := cs.take count
  let n ← ds.foldlM (fun n c => (hexDigit? c).map (n * 16 + ·)) 0
  if ds.length = count ∧ (n < 0xd800 ∨ (0xdfff < n ∧ n < 0x110000)) then
    pure (Char.ofNat n, cs.drop count)
  else none

/-- The character of an escape, after its backslash. -/
def escape? : List Char → Option (Char × List Char)
  | 'b' :: rest => some ('\x08', rest)
  | 't' :: rest => some ('\t', rest)
  | 'n' :: rest => some ('\n', rest)
  | 'f' :: rest => some ('\x0c', rest)
  | 'r' :: rest => some ('\r', rest)
  | 'e' :: rest => some ('\x1b', rest)
  | '"' :: rest => some ('"', rest)
  | '\\' :: rest => some ('\\', rest)
  | 'x' :: rest => numbered? 2 rest
  | 'u' :: rest => numbered? 4 rest
  | 'U' :: rest => numbered? 8 rest
  | _ => none

/-- A text on one line, after its opening quote. -/
def lineText : Nat → (quote : Char) → (escapes : Bool) → List Char → List Char → Option (String × List Char)
  | 0, _, _, _, _ => none
  | _ + 1, _, _, _, [] => none
  | fuel + 1, quote, escapes, acc, c :: rest =>
    if c = quote then some (String.ofList acc.reverse, rest)
    else if c = '\\' ∧ escapes then do
      let (e, rest) ← escape? rest
      lineText fuel quote escapes (e :: acc) rest
    else if isPrintable c then lineText fuel quote escapes (c :: acc) rest
    else none

/-- A text on several lines, after its opening quotes; its line ends stay as they are. Three quotes end
it, and up to two before them belong to it; after a backslash at the end of a line, all blanks and line
ends are skipped. -/
def blockText : Nat → (quote : Char) → (escapes : Bool) → List Char → List Char → Option (String × List Char)
  | 0, _, _, _, _ => none
  | _ + 1, _, _, _, [] => none
  | fuel + 1, quote, escapes, acc, c :: rest =>
    if c = quote then
      let run := (c :: rest).takeWhile (· == quote)
      let after := (c :: rest).dropWhile (· == quote)
      if run.length < 3 then blockText fuel quote escapes (run ++ acc) after
      else
        let own := min (run.length - 3) 2
        some (String.ofList (List.replicate own quote ++ acc).reverse, run.drop (own + 3) ++ after)
    else if c = '\\' ∧ escapes then
      match newline? (rest.dropWhile isSpace) with
      | some rest => blockText fuel quote escapes acc (skipSpaceAndLines rest)
      | none => do
        let (e, rest) ← escape? rest
        blockText fuel quote escapes (e :: acc) rest
    else if isPrintable c || (newline? (c :: rest)).isSome then blockText fuel quote escapes (c :: acc) rest
    else none

/-- A text that starts with the given quote, which was read. -/
def text? (quote : Char) (rest : List Char) : Option (String × List Char) :=
  let escapes := quote == '"'
  match rest with
  | a :: b :: tail =>
    if a = quote ∧ b = quote then
      let tail := (newline? tail).getD tail
      blockText (tail.length + 1) quote escapes [] tail
    else lineText (rest.length + 1) quote escapes [] rest
  | _ => lineText (rest.length + 1) quote escapes [] rest

/-- A text on one line that starts with the given quote, which was read. -/
def quotedKey? (quote : Char) (rest : List Char) : Option (String × List Char) :=
  lineText (rest.length + 1) quote (quote == '"') [] rest

end Gatehouse.Toml
