import Gatehouse.Data.Value
/-!
Layers of settings. A later layer is laid over an earlier one: records are merged key by key, all else
is replaced. The keys at the top of a layer may be paths, `a.b` into a record and `a[0]` into a list.
-/

namespace Gatehouse.Layer

/-- A step of a path. -/
inductive Step where
  | key (k : String)
  | index (i : Int)
deriving DecidableEq

/-- Where in the settings a value goes: a key at the top, then steps down. -/
structure Path where
  root : String
  steps : List Step := []
deriving DecidableEq

def isKeyChar (c : Char) : Bool := c.isAlphanum || c == '_' || c == '-'

/-- The steps that characters write. -/
def steps? : Nat → List Char → Option (List Step)
  | 0, _ => none
  | _ + 1, [] => some []
  | fuel + 1, '.' :: rest => do
    let k := rest.takeWhile isKeyChar
    if k.isEmpty then none
    else
      let more ← steps? fuel (rest.dropWhile isKeyChar)
      pure (.key (String.ofList k) :: more)
  | fuel + 1, '[' :: rest => do
    let rest := rest.dropWhile fun c => c == ' ' || c == '\t'
    let (negative, rest) := match rest with
      | '-' :: rest => (true, rest)
      | rest => (false, rest)
    let ds := rest.takeWhile Char.isDigit
    let n := Int.ofNat (ds.foldl (fun n c => n * 10 + (c.toNat - '0'.toNat)) 0)
    let n := if negative then -n else n
    match (rest.dropWhile Char.isDigit).dropWhile fun c => c == ' ' || c == '\t' with
    | ']' :: rest =>
      if ds.isEmpty || !Value.fitsWord n then none
      else
        let more ← steps? fuel rest
        pure (.index n :: more)
    | _ => none
  | _ + 1, _ => none

/-- The path that a text writes; a text that writes none is a key by itself. -/
def Path.ofText (s : String) : Path :=
  let cs := s.toList
  let k := cs.takeWhile isKeyChar
  match steps? (cs.length + 1) (cs.dropWhile isKeyChar) with
  | some steps => if k.isEmpty then ⟨s, []⟩ else ⟨String.ofList k, steps⟩
  | none => ⟨s, []⟩

/-- The record of a value; anything but a record gives way to an empty one. -/
def recordOf : Value → Record
  | .record r => r
  | _ => ∅

/-- The items of a value; anything but a list gives way to an empty one. -/
def itemsOf : Value → List Value
  | .list items => items
  | _ => []

/-- Changes the value at an index, counted from the end if negative; the list is filled up with null
values at the end or at the front until it has such an index. -/
def changeIndex (items : List Value) (i : Int) (f : Value → Value) : List Value :=
  if 0 ≤ i then
    let items := items ++ List.replicate (i.toNat + 1 - items.length) Value.null
    items.modify i.toNat f
  else if i.natAbs ≤ items.length then items.modify (items.length - i.natAbs) f
  else (List.replicate (i.natAbs - items.length) Value.null ++ items).modify 0 f

/-- Changes the value at the end of some steps down from a value. -/
def changeAt (f : Value → Value) : List Step → Value → Value
  | [], v => f v
  | .key k :: rest, v =>
    let r := recordOf v
    .record (r.insert k (changeAt f rest ((r.find? k).getD Value.null)))
  | .index i :: rest, v => .list (changeIndex (itemsOf v) i (changeAt f rest))

mutual

/-- Lays a value over another one. -/
def overlay : Value → Value → Value
  | .record ⟨fields⟩, below => .record (overlayFields fields (recordOf below))
  | v, _ => v

def overlayFields : List (String × Value) → Record → Record
  | [], below => below
  | (k, v) :: rest, below =>
    overlayFields rest (below.insert k (overlay v ((below.find? k).getD Value.null)))

end

/-- Lays the value of a path over the settings. -/
def set (settings : Record) (p : Path) (v : Value) : Record :=
  settings.insert p.root (changeAt (overlay v) p.steps ((settings.find? p.root).getD Value.null))

/-- Lays a layer over the settings, by ascending keys. -/
def apply (settings layer : Record) : Record :=
  layer.sorted.foldl (fun settings (k, v) => set settings (.ofText k) v) settings

end Gatehouse.Layer
