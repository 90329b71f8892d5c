import Gatehouse.Toml.Scalar
import Gatehouse.Toml.Text
import Gatehouse.Toml.Tree
/-!
Whole settings files: headers and bindings, a line each. Main entry: `Toml.ofText?`, which answers
nothing when a line has no meaning or says something twice.
-/

namespace Gatehouse.Toml

def skipSpace (cs : List Char) : List Char := cs.dropWhile isSpace

/-- What is left after a comment, if there is one. -/
def skipComment? : List Char → Option (List Char)
  | '#' :: rest =>
    let after := rest.dropWhile isPrintable
    match after with
    | [] => some []
    | '\n' :: _ | '\r' :: _ => some after
    | _ => none
  | rest => some rest

/-- What is left after blanks, comments and line ends; `fuel` bounds the lines. -/
def skipSomeLines? : Nat → List Char → Option (List Char)
  | 0, cs => some cs
  | fuel + 1, cs => do
    let rest ← skipComment? (skipSpace cs)
    match newline? rest with
    | some rest => skipSomeLines? fuel rest
    | none => pure rest

/-- What is left after blanks, comments and line ends. -/
def skipLines? (cs : List Char) : Option (List Char) := skipSomeLines? (cs.length + 1) cs

/-- The end of a line: nothing but blanks and a comment before it. -/
def endLine? (cs : List Char) : Option (List Char) := do
  let rest ← skipComment? (skipSpace cs)
  if rest.isEmpty then pure [] else newline? rest

def isBareKeyChar (c : Char) : Bool := c.isAlphanum || c == '_' || c == '-'

/-- One part of a key. -/
def keyPart? : List Char → Option (String × List Char)
  | '"' :: rest => quotedKey? '"' rest
  | '\'' :: rest => quotedKey? '\'' rest
  | cs =>
    let bare := cs.takeWhile isBareKeyChar
    if bare.isEmpty then none else some (String.ofList bare, cs.dropWhile isBareKeyChar)

/-- How many parts a key may have, and how many lists and tables may be open at once within a line. -/
def depthLimit : Nat := 80

/-- A key of at most so many parts: its path and its last part, and what follows. -/
def keyParts? : Nat → List String → List Char → Option (List String × String × List Char)
  | 0, _, _ => none
  | parts + 1, path, cs => do
    let (k, rest) ← keyPart? (skipSpace cs)
    match skipSpace rest with
    | '.' :: rest => keyParts? parts (k :: path) rest
    | rest => pure (path.reverse, k, rest)

/-- A key: its path and its last part, and what follows. -/
def key? (cs : List Char) : Option (List String × String × List Char) := keyParts? depthLimit [] cs

/-- Whether a character may stand in a word. -/
def isWordChar (c : Char) : Bool :=
  c.isAlphanum || c == '+' || c == '-' || c == '_' || c == '.' || c == ':'

/-- A word; a blank between a date and a time belongs to it. -/
def word (cs : List Char) : List Char × List Char :=
  let (w, rest) := cs.span isWordChar
  match rest with
  | ' ' :: c :: tail =>
    if c.isDigit && (date? w).any (fun d => d.2.isEmpty) then
      let (t, rest) := (c :: tail).span isWordChar
      (w ++ ' ' :: t, rest)
    else (w, rest)
  | _ => (w, rest)

mutual

/-- A value, and what follows it; `depth` lists and tables may still be opened, and `fuel` bounds the
number of items. -/
def value? : (depth fuel : Nat) → List Char → Option (Value × List Char)
  | _, 0, _ => none
  | depth, fuel + 1, cs =>
    match cs, depth with
    | '"' :: rest, _ => (text? '"' rest).map fun (s, rest) => (.text s, rest)
    | '\'' :: rest, _ => (text? '\'' rest).map fun (s, rest) => (.text s, rest)
    | '[' :: rest, depth + 1 => items? depth fuel [] rest
    | '{' :: rest, depth + 1 => bindings? depth fuel [] rest
    | cs, _ =>
      let (w, rest) := word cs
      (scalar? w).map (·, rest)

/-- The items of a list, up to its closing bracket. -/
def items? : (depth fuel : Nat) → List Value → List Char → Option (Value × List Char)
  | _, 0, _, _ => none
  | depth, fuel + 1, acc, cs => do
    match ← skipLines? cs with
    | ']' :: rest => pure (.list acc.reverse, rest)
    | cs =>
      let (v, rest) ← value? depth fuel cs
      match ← skipLines? rest with
      | ',' :: rest => items? depth fuel (v :: acc) rest
      | ']' :: rest => pure (.list (v :: acc).reverse, rest)
      | _ => none

/-- The bindings of a table within a line, up to its closing brace. -/
def bindings? : (depth fuel : Nat) → Entries → List Char → Option (Value × List Char)
  | _, 0, _, _ => none
  | depth, fuel + 1, acc, cs => do
    match ← skipLines? cs with
    | '}' :: rest => pure (.record (toRecord acc), rest)
    | cs =>
      let (path, k, rest) ← key? cs
      match ← skipLines? rest with
      | '=' :: rest =>
        let (v, rest) ← value? depth fuel (← skipLines? rest)
        let acc ← bind path k v acc
        match ← skipLines? rest with
        | ',' :: rest => bindings? depth fuel acc rest
        | '}' :: rest => pure (.record (toRecord acc), rest)
        | _ => none
      | _ => none

end

/-- A value on a line, and what follows it. -/
def lineValue? (cs : List Char) : Option (Value × List Char) :=
  value? depthLimit (2 * cs.length + 2) (skipSpace cs)

/-- What was read so far: the tree, and the path of the open table. -/
structure Progress where
  root : Entries := []
  table : List String := []

/-- A header or a binding. -/
def line? (p : Progress) (cs : List Char) : Option (Progress × List Char) :=
  match cs with
  | '[' :: '[' :: rest => do
    let (path, k, rest) ← key? rest
    match rest with
    | ']' :: ']' :: rest =>
      let root ← openRow path k p.root
      pure ({ root, table := path ++ [k] }, rest)
    | _ => none
  | '[' :: rest => do
    let (path, k, rest) ← key? rest
    match rest with
    | ']' :: rest =>
      let root ← openTable path k p.root
      pure ({ root, table := path ++ [k] }, rest)
    | _ => none
  | cs => do
    let (path, k, rest) ← key? cs
    match rest with
    | '=' :: rest =>
      let (v, rest) ← lineValue? rest
      let root ← bindAt p.table path k v p.root
      pure ({ p with root }, rest)
    | _ => none

/-- The lines of a file. -/
def lines? : Nat → Progress → List Char → Option Progress
  | 0, _, _ => none
  | fuel + 1, p, cs => do
    let cs ← skipLines? cs
    if cs.isEmpty then pure p
    else
      let (p, rest) ← line? p cs
      let rest ← endLine? rest
      lines? fuel p rest

/-- The record that a settings file writes. -/
def ofText? (s : String) : Option Record :=
  let cs := match s.toList with
    | '\ufeff' :: rest => rest
    | cs => cs
  (lines? (cs.length + 2) {} cs).map fun p => toRecord p.root

end Gatehouse.Toml
