import Gatehouse.Data.Value
/-!
The tree that a settings file builds line by line. A table is opened once, by its header; a header or
a dotted key opens the tables on the way to it, and those a header may still open.
-/

namespace Gatehouse.Toml

/-- How a table came to be, or what opened it since. -/
inductive Origin where
  /-- Its own header. -/
  | header
  /-- Nothing but the way to another header. -/
  | implied
  /-- The way to a dotted key. -/
  | dotted
deriving DecidableEq

/-- What stands under a key. -/
inductive Node where
  | value (v : Value)
  | table (origin : Origin) (entries : List (String × Node))
  /-- A list of tables, the last one first. -/
  | rows (tables : List (List (String × Node)))

/-- The entries of a table. -/
abbrev Entries := List (String × Node)

/-- Replaces what stands under a key, or puts something under it; `f` is given what stands there, and
refuses by answering nothing. -/
def change (key : String) (f : Option Node → Option Node) : Entries → Option Entries
  | [] => (f none).map fun n => [(key, n)]
  | (k, n) :: rest =>
    if k = key then (f (some n)).map fun n => (key, n) :: rest
    else (change key f rest).map ((k, n) :: ·)

/-- Changes the table at the end of a path; `f` is also given the origin of that table. Tables that are
missing on the way are opened with the given origin; `enter` says what becomes of the origin of those
that are there, and refuses by answering nothing. -/
def changeAt (origin : Origin) (enter : Origin → Option Origin)
    (f : Option Origin → Entries → Option Entries) :
    Option Origin → List String → Entries → Option Entries
  | here, [], es => f here es
  | _, key :: path, es =>
    change key (fun
      | none => (changeAt origin enter f (some origin) path []).map (.table origin)
      | some (.table o sub) =>
        (enter o).bind fun o => (changeAt origin enter f (some o) path sub).map (.table o)
      | some (.rows (last :: others)) =>
        (changeAt origin enter f (some .header) path last).map fun last => .rows (last :: others)
      | some _ => none) es

/-- A dotted key does not go into a table that has a header; one that was only implied counts as opened
by the key from then on. -/
def Origin.enterDotted : Origin → Option Origin
  | .header => none
  | .implied | .dotted => some .dotted

/-- The tree with a table opened by its header. -/
def openTable (path : List String) (key : String) (root : Entries) : Option Entries :=
  changeAt .implied some (fun _ => change key fun
    | none => some (.table .header [])
    | some (.table .implied sub) => some (.table .header sub)
    | some _ => none) none path root

/-- The tree with a row added to a list of tables. -/
def openRow (path : List String) (key : String) (root : Entries) : Option Entries :=
  changeAt .implied some (fun _ => change key fun
    | none => some (.rows [[]])
    | some (.rows tables) => some (.rows ([] :: tables))
    | some _ => none) none path root

/-- A table with a value under a dotted key. The last table on the way must not be a row. -/
def bind (path : List String) (key : String) (v : Value) (table : Entries) : Option Entries :=
  changeAt .dotted Origin.enterDotted (fun here es =>
    if here.isNone || here = some .dotted then
      change key (fun
        | none => some (.value v)
        | some _ => none) es
    else none) none path table

/-- The tree with a value under a dotted key in the table at a path. -/
def bindAt (table path : List String) (key : String) (v : Value) (root : Entries) : Option Entries :=
  changeAt .implied some (fun _ es => bind path key v es) none table root

mutual

/-- The value of a node. -/
def Node.toValue : Node → Value
  | .value v => v
  | .table _ es => .record ⟨entriesToFields es⟩
  | .rows tables => .list (rowsToValues tables).reverse

def entriesToFields : Entries → List (String × Value)
  | [] => []
  | (k, n) :: rest => (k, n.toValue) :: entriesToFields rest

def rowsToValues : List Entries → List Value
  | [] => []
  | es :: rest => .record ⟨entriesToFields es⟩ :: rowsToValues rest

end

/-- The record of a tree. -/
def toRecord (root : Entries) : Record := ⟨entriesToFields root⟩

end Gatehouse.Toml
