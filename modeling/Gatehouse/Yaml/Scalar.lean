import Gatehouse.Data.Numeral
/-!
The scalars of indented settings files: plain words and what they mean, quoted texts, and texts that are
blocks of lines.
-/

namespace Gatehouse.Yaml

open ValueText (hexDigit?)

/-- The kinds of scalars: the meaning of a plain one depends on its characters. -/
structure Scalar where
  chars : List Char
  plain : Bool

/-- What a plain scalar means. A number that is no integer keeps its characters. -/
inductive Meaning where
  | null
  | bool (b : Bool)
  | int (n : Int)
  | number (cs : List Char)
  | text (cs : List Char)

def isBlankChar (c : Char) : Bool := c == ' ' || c == '\t'

/-- The integer of 64 bits that digits of a base write. -/
def based? (base : Nat) (ds : List Char) : Option Int :=
  let n := Int.ofNat (ds.foldl (fun n c => n * base + (hexDigit? c).getD 0) 0)
  if ds.isEmpty || !ds.all (fun c => (hexDigit? c).any (· < base)) || !Value.fitsWord n then none else some n

/-- The integer that a plain scalar writes. -/
def integer? (cs : List Char) : Option Int :=
  let marked := match cs with
    | '0' :: 'x' :: ds => based? 16 ds
    | '0' :: 'o' :: ds => based? 8 ds
    | '+' :: ds => Numeral.int? ds
    | _ => none
  marked <|> Numeral.int? cs

/-- The plain scalars that name an infinite number or none. -/
def namedNumbers : List String :=
  [".inf", ".Inf", ".INF", "+.inf", "+.Inf", "+.INF", "-.inf", "-.Inf", "-.INF", ".nan", ".NaN", ".NAN"]

/-- Whether a plain scalar is a number. -/
def isNumber (cs : List Char) : Bool :=
  namedNumbers.contains (String.ofList cs) || (cs.any Char.isDigit && (Numeral.fraction? cs).isSome)

/-- The meaning of a plain scalar without a tag. -/
def Meaning.ofPlain (cs : List Char) : Meaning :=
  match integer? cs with
  | some n => .int n
  | none =>
    let s := String.ofList cs
    if s = "" ∨ s = "~" ∨ s = "null" then .null
    else if s = "true" ∨ s = "True" ∨ s = "TRUE" then .bool true
    else if s = "false" ∨ s = "False" ∨ s = "FALSE" then .bool false
    else if isNumber cs then .number cs
    else .text cs

/-- The meaning of a plain scalar with a tag; where the tag does not fit, there is none. -/
def Meaning.ofTagged (tag : String) (cs : List Char) : Meaning :=
  let s := String.ofList cs
  if tag = "!!bool" then (if s = "true" then .bool true else if s = "false" then .bool false else .null)
  else if tag = "!!int" then
    match Numeral.int? cs with
    | some n => .int n
    | none => .null
  else if tag = "!!float" then (if isNumber cs then .number cs else .null)
  else if tag = "!!null" then .null
  else .text cs

/-- The meaning of a scalar; a tag changes nothing for one that is not plain. -/
def Scalar.meaning (s : Scalar) (tag : Option String) : Meaning :=
  if s.plain then
    match tag with
    | none => .ofPlain s.chars
    | some tag => .ofTagged tag s.chars
  else .text s.chars

/-- The value of a meaning; a number needs digits. -/
def Meaning.value? : Meaning → Option Value
  | .null => some .null
  | .bool b => some (.bool b)
  | .int n => some (.int n)
  | .number cs => (Numeral.fraction? cs).map .float
  | .text cs => some (.text (String.ofList cs))

/-- The key that a meaning stands for. -/
def Meaning.key? : Meaning → Option String
  | .null => none
  | .bool b => some (if b then "true" else "false")
  | .int n => some (toString n)
  | .number cs => some (String.ofList cs)
  | .text cs => some (String.ofList cs)

/-- What some line ends in a row stand for: one is a blank, of more the first one counts for nothing. -/
def folded (lineEnds : Nat) : List Char :=
  if lineEnds = 1 then [' '] else List.replicate (lineEnds - 1) '\n'

/-- The blanks and line ends in front, and what follows them. -/
def gap (cs : List Char) : List Char × List Char := cs.span fun c => isBlankChar c || c == '\n'

/-- How many lines end in some characters. -/
def lineEnds (cs : List Char) : Nat := cs.count '\n'

/-- Blanks and line ends within a quoted text: line ends are folded, and blanks alone stay. -/
def foldedGap (cs : List Char) : List Char := if lineEnds cs = 0 then cs else folded (lineEnds cs)

/-- The rest of a text in single quotes, in which two of them stand for one. -/
def singleQuoted? : Nat → List Char → List Char → Option (List Char × List Char)
  | 0, _, _ => none
  | _ + 1, _, [] => none
  | fuel + 1, acc, '\'' :: '\'' :: rest => singleQuoted? fuel ('\'' :: acc) rest
  | fuel + 1, acc, c :: rest =>
    if c = '\'' then some (acc.reverse, rest)
    else if isBlankChar c || c == '\n' then
      let (skipped, rest) := gap (c :: rest)
      singleQuoted? fuel ((foldedGap skipped).reverse ++ acc) rest
    else singleQuoted? fuel (c :: acc) rest

/-- The character with a number in so many digits of base 16. -/
def numbered? (count : Nat) (cs : List Char) : Option (Char × List Char) := do
  let ds := cs.take count
  let n ← ds.foldlM (fun n c => (hexDigit? c).map (n * 16 + ·)) 0
  if ds.length = count ∧ (n < 0xd800 ∨ (0xdfff < n ∧ n < 0x110000)) then
    pure (Char.ofNat n, cs.drop count)
  else none

/-- The characters that a letter after a backslash may stand for. -/
def letters : List (Char × Char) :=
  [('0', '\x00'), ('a', '\x07'), ('b', '\x08'), ('t', '\t'), ('\t', '\t'), ('n', '\n'), ('v', '\x0b'),
    ('f', '\x0c'), ('r', '\r'), ('e', '\x1b'), (' ', ' '), ('"', '"'), ('/', '/'), ('\\', '\\'),
    ('N', '\u0085'), ('_', '\u00a0'), ('L', '\u2028'), ('P', '\u2029')]

/-- The character of an escape, after its backslash. -/
def escape? : List Char → Option (Char × List Char)
  | 'x' :: rest => numbered? 2 rest
  | 'u' :: rest => numbered? 4 rest
  | 'U' :: rest => numbered? 8 rest
  | c :: rest => (letters.lookup c).map (·, rest)
  | [] => none

/-- The rest of a text in double quotes. A backslash at the end of a line joins it to the next one. -/
def doubleQuoted? : Nat → List Char → List Char → Option (List Char × List Char)
  | 0, _, _ => none
  | _ + 1, _, [] => none
  | fuel + 1, acc, '\\' :: '\n' :: rest =>
    let (skipped, rest) := gap rest
    doubleQuoted? fuel (List.replicate (lineEnds skipped) '\n' ++ acc) rest
  | fuel + 1, acc, c :: rest =>
    if c = '"' then some (acc.reverse, rest)
    else if c = '\\' then do
      let (e, rest) ← escape? rest
      doubleQuoted? fuel (e :: acc) rest
    else if isBlankChar c || c == '\n' then
      let (skipped, rest) := gap (c :: rest)
      doubleQuoted? fuel ((foldedGap skipped).reverse ++ acc) rest
    else doubleQuoted? fuel (c :: acc) rest

/-- What becomes of the line ends at the end of a block of lines. -/
inductive Chomping where
  | clip
  | strip
  | keep

/-- What stands at the head of a block of lines. -/
structure BlockHead where
  folds : Bool
  chomping : Chomping := .clip
  indentation : Option Nat := none

/-- The head of a block of lines, after its first character. -/
def BlockHead.read : BlockHead → List Char → BlockHead × List Char
  | head, c :: rest =>
    if c = '-' then BlockHead.read { head with chomping := .strip } rest
    else if c = '+' then BlockHead.read { head with chomping := .keep } rest
    else if '1' ≤ c ∧ c ≤ '9' then
      BlockHead.read { head with indentation := some (c.toNat - '0'.toNat) } rest
    else (head, c :: rest)
  | head, [] => (head, [])

/-- What is left of the line after a head: blanks and a comment, then its end. -/
def afterHead? (cs : List Char) : Option (List Char) :=
  let rest := cs.dropWhile isBlankChar
  let rest := if rest.head? = some '#' ∧ rest.length < cs.length then rest.dropWhile (· ≠ '\n') else rest
  match rest with
  | [] => some []
  | '\n' :: rest => some rest
  | _ => none

/-- The column at which the first line with characters starts. -/
def firstColumn : (column : Nat) → List Char → Nat
  | column, ' ' :: rest => firstColumn (column + 1) rest
  | _, '\n' :: rest => firstColumn 0 rest
  | column, _ => column

/-- The lines of a block with so much indentation, and what follows the block. -/
def blockLines (indentation : Nat) : Nat → List (List Char) → List Char → List (List Char) × List Char
  | 0, acc, cs => (acc.reverse, cs)
  | _ + 1, acc, [] => (acc.reverse, [])
  | fuel + 1, acc, cs =>
    let line := cs.takeWhile (· ≠ '\n')
    let rest := cs.drop (line.length + 1)
    let indented := (line.takeWhile (· == ' ')).length
    if line.all (· == ' ') then blockLines indentation fuel (line.drop indentation :: acc) rest
    else if indented < indentation then (acc.reverse, cs)
    else blockLines indentation fuel (line.drop indentation :: acc) rest

/-- Whether a line of a block starts with a blank. -/
def startsBlank (line : List Char) : Bool := line.head?.any isBlankChar

/-- The text of lines; an end between two lines that start without a blank is folded, if asked for. -/
def joined (folds : Bool) : (before : List Char) → (ends : Nat) → List (List Char) → List Char
  | _, _, [] => []
  | before, ends, line :: rest =>
    if line.isEmpty then joined folds before (ends + 1) rest
    else
      let between :=
        if folds && !startsBlank before && !startsBlank line then folded ends else List.replicate ends '\n'
      between ++ line ++ joined folds line 1 rest

/-- The text of a block of lines. -/
def BlockHead.text (head : BlockHead) (lines : List (List Char)) : List Char :=
  let body := (lines.reverse.dropWhile List.isEmpty).reverse
  let leading := (body.takeWhile List.isEmpty).length
  let text := List.replicate leading '\n' ++ joined head.folds [] 0 (body.drop leading)
  match head.chomping with
  | .strip => text
  | .clip => if body.isEmpty then [] else text ++ ['\n']
  | .keep => text ++ List.replicate (lines.length - body.length + (if body.isEmpty then 0 else 1)) '\n'

end Gatehouse.Yaml
