import Gatehouse.Data.ValueText
import Gatehouse.Text.Blank
/-!
Settings files of sections. A binding `key = value` or `key: value` gives a key a text, and `[name]` opens
a section, whose bindings make up a record of their own. Main entry: `Ini.ofText?`.
-/

namespace Gatehouse.Ini

open ValueText (hex4?)

/-- The character that stands for itself or another one after a backslash. -/
def escaped : Char → Char
  | '0' => '\x00'
  | 'a' => '\x07'
  | 'b' => '\x08'
  | 't' => '\t'
  | 'n' => '\n'
  | 'r' => '\r'
  | c => c

/-- The characters before the first one that ends them, which is still to be read; the end of the text
ends them only where it may. After a backslash the end of a line counts for nothing, and `x` with four
digits gives a character by number. -/
def upTo? (endsAt : Char → Bool) (mayEnd : Bool) : Nat → List Char → List Char → Option (List Char × List Char)
  | 0, _, _ => none
  | _ + 1, acc, [] => if mayEnd then some (acc.reverse, []) else none
  | fuel + 1, acc, '\\' :: rest =>
    match rest with
    | [] => upTo? endsAt mayEnd fuel ('\\' :: acc) []
    | '\n' :: rest => upTo? endsAt mayEnd fuel acc rest
    | 'x' :: rest => do
      let (n, rest) ← hex4? rest
      if 0xD800 ≤ n ∧ n ≤ 0xDFFF then none else upTo? endsAt mayEnd fuel (Char.ofNat n :: acc) rest
    | c :: rest => upTo? endsAt mayEnd fuel (escaped c :: acc) rest
  | fuel + 1, acc, c :: rest =>
    if endsAt c then some (acc.reverse, c :: rest) else upTo? endsAt mayEnd fuel (c :: acc) rest

def isLineEnd (c : Char) : Bool := c == '\n' || c == '\r'

/-- The value of a binding: quoted parts in front, then the rest of the line without the blanks around
it; after a quoted part, the blanks in front of the rest stay. -/
def value? : Nat → (quoted : Bool) → List Char → Option (List Char × List Char)
  | 0, _, _ => none
  | _ + 1, _, [] => some ([], [])
  | fuel + 1, quoted, c :: rest =>
    if c = '"' ∨ c = '\'' then do
      let (part, rest) ← upTo? (· == c) false (rest.length + 2) [] rest
      let (more, rest) ← value? fuel true (rest.drop 1)
      pure (part ++ more, rest)
    else do
      let (part, rest) ← upTo? isLineEnd true (rest.length + 3) [] (c :: rest)
      let part := if quoted then part else part.dropWhile isBlank
      pure ((part.reverse.dropWhile isBlank).reverse, rest)

/-- What was read so far: the settings, and the name of the open section. -/
structure Progress where
  settings : Record := ∅
  opened : Option String := none

/-- Opens a section; of two sections of one name the later one counts. -/
def Progress.open (p : Progress) (name : String) : Progress :=
  { settings := p.settings.insert name (.record ∅), opened := some name }

/-- Binds a key in the open section, or at the top before the first one. -/
def Progress.bind (p : Progress) (k s : String) : Progress :=
  match p.opened with
  | none => { p with settings := p.settings.insertText k s }
  | some name =>
    let fields := (p.settings.record? name).getD ∅
    { p with settings := p.settings.insert name (.record (fields.insertText k s)) }

/-- The blanks in front, and what follows them. -/
def blanks (cs : List Char) : List Char × List Char := cs.span isBlank

/-- Comments, sections and bindings; `fresh` says whether a line starts here, as only there a comment
may. -/
def entries? : Nat → (fresh : Bool) → Progress → List Char → Option Progress
  | 0, _, _, _ => none
  | fuel + 1, fresh, p, cs =>
    let (skipped, cs) := blanks cs
    let fresh := if skipped.isEmpty then fresh else skipped.getLast? = some '\n'
    match cs with
    | [] => some p
    | '[' :: rest => do
      let (name, rest) ← upTo? (· == ']') false (rest.length + 2) [] rest
      entries? fuel false (p.open (String.ofList (trimChars name))) (rest.drop 1)
    | c :: rest =>
      if c = ';' ∨ c = '#' then
        if fresh then entries? fuel true p ((rest.dropWhile (· ≠ '\n')).drop 1) else none
      else do
        let (k, rest) ← upTo? (fun c => c == '=' || c == ':') false (rest.length + 3) [] (c :: rest)
        let k := trimChars k
        if k.isEmpty then none
        else
          let rest := (rest.drop 1).dropWhile fun c => isBlank c && !isLineEnd c
          let (s, rest) ← value? (rest.length + 1) false rest
          entries? fuel false (p.bind (String.ofList k) (String.ofList s)) rest

/-- The record that a settings file of sections writes. -/
def ofText? (s : String) : Option Record :=
  (entries? (s.length + 1) true {} s.toList).map (·.settings)

end Gatehouse.Ini
