import Gatehouse.Yaml.Scalar
/-!
Indented settings files: mappings and lists whose extent shows in the columns where they start, and the
same in brackets. Main entry: `Yaml.ofText?`.
-/

namespace Gatehouse.Yaml

/-- Where reading stands: what is left, the column of its first character, and the values that were given
names. -/
structure Cursor where
  rest : List Char
  column : Nat := 0
  anchors : List (String × Value) := []

namespace Cursor

/-- The cursor at a later place of the text. -/
def moved (c : Cursor) (rest : List Char) : Cursor :=
  let read := c.rest.take (c.rest.length - rest.length)
  let last := (read.reverse.takeWhile (· ≠ '\n')).length
  { c with rest, column := if read.contains '\n' then last else c.column + last }

/-- Gives a value a name. -/
def named (c : Cursor) (name : Option String) (v : Value) : Cursor :=
  match name with
  | some name => { c with anchors := (name, v) :: c.anchors }
  | none => c

/-- Whether a blank, the end of a line or the end of the text is in front. -/
def endsWord : List Char → Bool
  | [] => true
  | c :: _ => isBlankChar c || c == '\n'

/-- Whether a line that separates documents starts here. -/
def atMarker (c : Cursor) : Bool :=
  c.column = 0 && (match c.rest with
    | '-' :: '-' :: '-' :: rest => endsWord rest
    | '.' :: '.' :: '.' :: rest => endsWord rest
    | _ => false)

/-- Whether the document ends here. -/
def atEnd (c : Cursor) : Bool := c.rest.isEmpty || c.atMarker

/-- Whether an item of a list starts here. -/
def atDash (c : Cursor) : Bool :=
  match c.rest with
  | '-' :: rest => endsWord rest
  | _ => false

/-- Skips blanks, comments and line ends, and tells whether a line ended. A comment needs a blank or a line
start in front of it, and outside brackets no line with content may start with a tab. -/
def gap? (brackets : Bool) : Nat → (apart crossed tabbed : Bool) → Cursor → Option (Bool × Cursor)
  | 0, _, _, _, _ => none
  | fuel + 1, apart, crossed, tabbed, c =>
    match c.rest with
    | ' ' :: rest => gap? brackets fuel true crossed tabbed { c with rest, column := c.column + 1 }
    | '\t' :: rest => gap? brackets fuel true crossed crossed { c with rest, column := c.column + 1 }
    | '\n' :: rest => gap? brackets fuel true true false { c with rest, column := 0 }
    | '#' :: rest =>
      if apart then gap? brackets fuel true crossed false (c.moved (rest.dropWhile (· ≠ '\n')))
      else some (crossed, c)
    | [] => some (crossed, c)
    | _ => if tabbed && !brackets then none else some (crossed, c)

/-- Skips blanks, comments and line ends outside brackets. -/
def gap (c : Cursor) : Option (Bool × Cursor) := gap? false (c.rest.length + 1) (c.column = 0) false false c

/-- Skips blanks, comments and line ends in brackets; what follows may not stand left of the collection
around the brackets. -/
def innerGap (floor : Nat) (c : Cursor) : Option Cursor := do
  let (_, c) ← gap? true (c.rest.length + 1) (c.column = 0) false false c
  if c.atEnd || c.column < floor then none else pure c

/-- Skips blanks within a line. -/
def skipBlanks (c : Cursor) : Cursor := c.moved (c.rest.dropWhile isBlankChar)

end Cursor

def isBracket (c : Char) : Bool := c == ',' || c == '[' || c == ']' || c == '{' || c == '}'

/-- Whether a colon in front parts a key from its value; in brackets it may stand before one. -/
def atColon (brackets : Bool) : List Char → Bool
  | ':' :: rest => Cursor.endsWord rest || (brackets && rest.head?.any isBracket)
  | _ => false

/-- Whether a plain scalar may start here. -/
def startsPlain (brackets : Bool) : List Char → Bool
  | c :: rest =>
    if c == '-' || c == '?' || c == ':' then
      !Cursor.endsWord rest && !(brackets && rest.head?.any isBracket)
    else !isBracket c && !("#&*!|>'\"%@\x60".toList.contains c) && !isBlankChar c && c ≠ '\n'
  | [] => false

/-- The part of a plain scalar on one line, with blanks at its end, and what follows. -/
def plainPart (brackets : Bool) : (apart : Bool) → List Char → List Char → List Char × List Char
  | _, acc, [] => (acc.reverse, [])
  | apart, acc, c :: rest =>
    if c = '\n' || (c = '#' && apart) || atColon brackets (c :: rest) || (brackets && isBracket c) then
      (acc.reverse, c :: rest)
    else plainPart brackets (isBlankChar c) (c :: acc) rest

def dropLastBlanks (cs : List Char) : List Char := (cs.reverse.dropWhile isBlankChar).reverse

/-- A plain scalar on one line; blanks at its end are still to be read. -/
def plainLine (brackets : Bool) (c : Cursor) : List Char × Cursor :=
  let part := dropLastBlanks (plainPart brackets false [] c.rest).1
  (part, c.moved (c.rest.drop part.length))

/-- The further lines of a plain scalar, which start at some column or right of it. -/
def plainMore (brackets : Bool) (least : Nat) : Nat → List Char → Cursor → List Char × Cursor
  | 0, acc, c => (acc, c)
  | fuel + 1, acc, c =>
    let (skipped, rest) := gap c.rest
    let next := c.moved rest
    if lineEnds skipped = 0 || next.atEnd || next.column < least || rest.head? = some '#'
        || atColon brackets rest || (brackets && rest.head?.any isBracket) then (acc, c)
    else
      let (part, next) := plainLine brackets next
      plainMore brackets least fuel (acc ++ folded (lineEnds skipped) ++ part) next

/-- A quoted text, which starts here. -/
def quoted? (c : Cursor) : Option (List Char × Cursor) :=
  match c.rest with
  | '"' :: rest => (doubleQuoted? (rest.length + 1) [] rest).map fun (s, rest) => (s, c.moved rest)
  | '\'' :: rest => (singleQuoted? (rest.length + 1) [] rest).map fun (s, rest) => (s, c.moved rest)
  | _ => none

/-- What may stand in front of a value: a name for it and a tag. -/
structure Properties where
  name : Option String := none
  tag : Option String := none

/-- The value where nothing follows the properties. -/
def Properties.nothing (p : Properties) : Value := if p.tag = some "!!str" then .text "" else .null

def isNameChar (brackets : Bool) (c : Char) : Bool :=
  !isBlankChar c && c ≠ '\n' && !(brackets && isBracket c)

/-- The properties on one line. -/
def properties? (brackets : Bool) : Nat → Properties → Cursor → Option (Properties × Cursor)
  | 0, _, _ => none
  | fuel + 1, p, c =>
    match c.rest with
    | '&' :: rest =>
      let name := rest.takeWhile (isNameChar brackets)
      if name.isEmpty || p.name.isSome then none
      else
        let c := (c.moved (rest.drop name.length)).skipBlanks
        properties? brackets fuel { p with name := some (String.ofList name) } c
    | '!' :: rest =>
      let tag := '!' :: rest.takeWhile (isNameChar brackets)
      if p.tag.isSome then none
      else
        let c := (c.moved (c.rest.drop tag.length)).skipBlanks
        properties? brackets fuel { p with tag := some (String.ofList tag) } c
    | _ => some (p, c)

/-- The value that an earlier name stands for. -/
def alias? (brackets : Bool) (c : Cursor) : Option (Value × Cursor) :=
  match c.rest with
  | '*' :: rest => do
    let name := rest.takeWhile (isNameChar brackets)
    let v ← c.anchors.lookup (String.ofList name)
    pure (v, c.moved (rest.drop name.length))
  | _ => none

/-- A scalar on one line or more: quoted, or plain with further lines from some column on. -/
def scalar? (brackets : Bool) (least : Nat) (c : Cursor) : Option (Scalar × Cursor) :=
  match quoted? c with
  | some (cs, c) => some (⟨cs, false⟩, c)
  | none =>
    if startsPlain brackets c.rest then
      let (part, next) := plainLine brackets c
      let (cs, next) := plainMore brackets least (c.rest.length + 1) part next
      some (⟨cs, true⟩, next)
    else none

/-- The key that starts here, if a line goes on with a colon after it. -/
def key? (p : Properties) (c : Cursor) : Option (String × Cursor) := do
  let (s, next) ← match quoted? c with
    | some (cs, next) => some (Scalar.mk cs false, next)
    | none =>
      if startsPlain false c.rest then
        let (cs, next) := plainLine false c
        some (⟨cs, true⟩, next)
      else none
  let read := c.rest.take (c.rest.length - next.rest.length)
  let next := next.skipBlanks
  if atColon false next.rest && !read.contains '\n' then
    let meaning := s.meaning p.tag
    let k ← meaning.key?
    let v ← meaning.value?
    pure (k, ((next.moved (next.rest.drop 1)).named p.name v))
  else none

mutual

/-- A value in brackets; `floor` is the column of the collection around them. -/
def inner? : (fuel floor : Nat) → Cursor → Option (Value × Cursor)
  | 0, _, _ => none
  | fuel + 1, floor, c => do
    let (p, c) ← properties? true (c.rest.length + 1) {} c
    let c ← c.innerGap floor
    let (v, c) ← match c.rest with
      | '[' :: rest => innerItems? fuel floor [] (c.moved rest)
      | '{' :: rest => innerFields? fuel floor ∅ (c.moved rest)
      | '*' :: _ => alias? true c
      | cs =>
        if atColon true cs || cs.head?.any isBracket then pure (p.nothing, c)
        else do
          let (s, c) ← scalar? true floor c
          let v ← (s.meaning p.tag).value?
          pure (v, c)
    pure (v, c.named p.name v)

/-- The value after a colon in brackets; where none stands, there is the null value. -/
def innerValue? : (fuel floor : Nat) → Cursor → Option (Value × Cursor)
  | 0, _, _ => none
  | fuel + 1, floor, c => do
    let c ← c.innerGap floor
    match c.rest with
    | ',' :: _ | ']' :: _ | '\x7d' :: _ => pure (.null, c)
    | _ => inner? fuel floor c

/-- A key in brackets and its value, which may be missing. The key is no collection. -/
def innerField? : (fuel floor : Nat) → Cursor → Option ((String × Value × Bool) × Cursor)
  | 0, _, _ => none
  | fuel + 1, floor, c => do
    let (p, c) ← properties? true (c.rest.length + 1) {} c
    let (s, c) ← scalar? true floor c
    let meaning := s.meaning p.tag
    let k ← meaning.key?
    let own ← meaning.value?
    let c ← (c.named p.name own).innerGap floor
    if atColon true c.rest || (!s.plain && c.rest.head? = some ':') then
      let (v, c) ← innerValue? fuel floor (c.moved (c.rest.drop 1))
      pure ((k, v, true), c)
    else pure ((k, .null, false), c)

/-- The rest of a list in brackets; an item may be a single binding. -/
def innerItems? : (fuel floor : Nat) → List Value → Cursor → Option (Value × Cursor)
  | 0, _, _, _ => none
  | fuel + 1, floor, acc, c => do
    let c ← c.innerGap floor
    match c.rest with
    | ']' :: rest => pure (.list acc.reverse, c.moved rest)
    | ',' :: _ => none
    | _ =>
      let (v, c) ← match innerField? fuel floor c with
        | some ((k, v, true), c) => some (Value.record (Table.empty.insert k v), c)
        | _ => inner? fuel floor c
      let c ← c.innerGap floor
      match c.rest with
      | ',' :: rest => innerItems? fuel floor (v :: acc) (c.moved rest)
      | ']' :: rest => pure (.list (v :: acc).reverse, c.moved rest)
      | _ => none

/-- The rest of a mapping in brackets. -/
def innerFields? : (fuel floor : Nat) → Record → Cursor → Option (Value × Cursor)
  | 0, _, _, _ => none
  | fuel + 1, floor, acc, c => do
    let c ← c.innerGap floor
    match c.rest with
    | '\x7d' :: rest => pure (.record acc, c.moved rest)
    | _ =>
      let ((k, v, _), c) ← innerField? fuel floor c
      if (acc.find? k).isSome then none
      else
        let c ← c.innerGap floor
        match c.rest with
        | ',' :: rest => innerFields? fuel floor (acc.insert k v) (c.moved rest)
        | '\x7d' :: rest => pure (.record (acc.insert k v), c.moved rest)
        | _ => none

end

/-- A text that is a block of lines, which starts here and is indented to some column at least. -/
def block? (least : Nat) (c : Cursor) : Option (List Char × Cursor) := do
  let (head, rest) ← match c.rest with
    | '|' :: rest => some (BlockHead.read { folds := false } rest)
    | '>' :: rest => some (BlockHead.read { folds := true } rest)
    | _ => none
  let rest ← afterHead? rest
  let indentation := match head.indentation with
    | some n => least - 1 + n
    | none => max (firstColumn 0 rest) (max least 1)
  let (lines, after) := blockLines indentation (rest.length + 1) [] rest
  pure (head.text lines, c.moved after)

mutual

/-- The value that follows. On later lines it starts at column `least` or right of it, or as a list at
column `dash` or right of it; `fresh` says whether a collection may start on this line. -/
def node? : (fuel least dash : Nat) → (fresh : Bool) → Cursor → Option (Value × Cursor)
  | 0, _, _, _, _ => none
  | fuel + 1, least, dash, fresh, c => do
    let (crossed, c) ← c.gap
    let left (c : Cursor) : Bool := c.column < least && !(c.atDash && dash ≤ c.column)
    if c.atEnd || (crossed && left c) then pure (.null, c)
    else
      let fresh := fresh || crossed
      let start := c.column
      let (p, c) ← properties? false (c.rest.length + 1) {} c
      let (below, c) ← c.gap
      if c.atEnd || (below && left c) then
        pure (p.nothing, c.named p.name p.nothing)
      else if below then
        let (v, c) ← node? fuel least dash true c
        pure (v, c.named p.name v)
      else
        match (if fresh then key? p c else none) with
        | some (k, c) => fields? fuel start ∅ k c
        | none =>
          let (v, c) ← match c.rest with
            | '[' :: rest => innerItems? fuel (least - 1) [] (c.moved rest)
            | '{' :: rest => innerFields? fuel (least - 1) ∅ (c.moved rest)
            | '*' :: _ => alias? false c
            | '|' :: _ | '>' :: _ => do
              let (cs, c) ← block? least c
              pure (.text (String.ofList cs), c)
            | _ =>
              if c.atDash then (if fresh then items? fuel c.column [] (c.moved (c.rest.drop 1)) else none)
              else do
                let (s, c) ← scalar? false least c
                let v ← (s.meaning p.tag).value?
                pure (v, c)
          pure (v, c.named p.name v)

/-- The rest of a mapping at a column, after the colon of a key. -/
def fields? : (fuel column : Nat) → Record → (k : String) → Cursor → Option (Value × Cursor)
  | 0, _, _, _, _ => none
  | fuel + 1, column, acc, k, c => do
    let (v, c) ← node? fuel (column + 1) column false c
    let (_, c) ← c.gap
    let acc ← if (acc.find? k).isSome then none else some (acc.insert k v)
    if c.atEnd || c.column < column then pure (.record acc, c)
    else if column < c.column then none
    else
      let (p, c) ← properties? false (c.rest.length + 1) {} c
      let (k, c) ← key? p c
      fields? fuel column acc k c

/-- The rest of a list at a column, after the dash of an item. -/
def items? : (fuel column : Nat) → List Value → Cursor → Option (Value × Cursor)
  | 0, _, _, _ => none
  | fuel + 1, column, acc, c => do
    let (v, c) ← node? fuel (column + 1) (column + 1) true c
    let (_, c) ← c.gap
    if !c.atEnd && column < c.column then none
    else if !c.atEnd && c.column = column && c.atDash then
      items? fuel column (v :: acc) (c.moved (c.rest.drop 1))
    else pure (.list (v :: acc).reverse, c)

end

/-- Line ends as one character each. -/
def lines : List Char → List Char
  | '\r' :: '\n' :: rest => '\n' :: lines rest
  | c :: rest => (if c = '\r' then '\n' else c) :: lines rest
  | [] => []

/-- Skips the lines in front of a document that say how to read it. -/
def directives? : Nat → (any : Bool) → Cursor → Option (Bool × Cursor)
  | 0, _, _ => none
  | fuel + 1, any, c => do
    let (_, c) ← c.gap
    match c.rest, c.column with
    | '%' :: rest, 0 => directives? fuel true (c.moved (rest.dropWhile (· ≠ '\n')))
    | _, _ => pure (any, c)

/-- What follows the end of a document: nothing but blanks, comments and end markers. -/
def closes? : Nat → Cursor → Option Unit
  | 0, _ => none
  | fuel + 1, c => do
    let (_, c) ← c.gap
    match c.rest with
    | [] => pure ()
    | '.' :: '.' :: '.' :: rest => if c.atMarker then closes? fuel (c.moved rest) else none
    | _ => none

/-- The record that a text writes as its only document; a text without any writes nothing. -/
def ofText? (s : String) : Option Record := do
  let cs := lines s.toList
  let size := cs.length + 1
  let (directed, c) ← directives? size false { rest := cs }
  let marked := c.atMarker && c.rest.head? = some '-'
  if c.rest.isEmpty && !directed then pure ∅
  else if directed && !marked then none
  else
    let c := if marked then c.moved (c.rest.drop 3) else c
    let (v, c) ← node? (4 * size) 0 0 (!marked) c
    let _ ← closes? size c
    v.record?

end Gatehouse.Yaml
