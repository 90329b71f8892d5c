import Gatehouse.Data.ValueText
import Gatehouse.Ini
import Gatehouse.Json5
import Gatehouse.Ron
import Gatehouse.Toml.Document
import Gatehouse.Yaml.Document
/-!
Settings files: which file a name means, and what the file says. A name means the file of that very name,
which must end as files of a format do; without one, it means the file whose name goes on with such an
ending.
-/

namespace Gatehouse

/-- The formats of settings files. -/
inductive FileFormat where
  | toml
  | json
  | yaml
  | ini
  | ron
  | json5
deriving DecidableEq, Repr

namespace FileFormat

/-- The endings of the files of a format. -/
def endings : FileFormat → List String
  | .toml => ["toml"]
  | .json => ["json"]
  | .yaml => ["yaml", "yml"]
  | .ini => ["ini"]
  | .ron => ["ron"]
  | .json5 => ["json5"]

/-- Every format with each of its endings. -/
def all : List (FileFormat × String) :=
  [toml, json, yaml, ini, ron, json5].flatMap fun format => format.endings.map fun ending => (format, ending)

/-- The format whose files end so. -/
def ofEnding? (ending : String) : Option FileFormat := (all.find? fun e => e.2 == ending).map (·.1)

end FileFormat

namespace Settings

mutual

/-- A value whose integers fit 64 bits with sign; a greater one becomes the nearest fraction. -/
def narrowed : Value → Value
  | .int n => if Value.fitsWord n then .int n else .float (.ofDecimal (n < 0) n.natAbs 0)
  | .list items => .list (narrowedItems items)
  | .record ⟨fields⟩ => .record ⟨narrowedFields fields⟩
  | v => v

def narrowedItems : List Value → List Value
  | [] => []
  | v :: rest => narrowed v :: narrowedItems rest

def narrowedFields : List (String × Value) → List (String × Value)
  | [] => []
  | (k, v) :: rest => (k, narrowed v) :: narrowedFields rest

end

/-- How deep lists and records may lie in each other in common object notation. -/
def nestingLimit : Nat := 127

/-- What a text says in a format, if it is well formed and says something by keys. -/
def ofFormat? : FileFormat → String → Option Record
  | .toml, s => Toml.ofText? s
  | .json, s => do
    let v ← Value.ofText? s
    if v.depth ≤ nestingLimit then (narrowed v).record? else none
  | .yaml, s => Yaml.ofText? s
  | .ini, s => Ini.ofText? s
  | .ron, s => (Ron.ofText? s).bind Value.record?
  | .json5, s => (Json5.ofText? s).bind Value.record?

/-- A text without the byte order mark in front. -/
def withoutMark (s : String) : String :=
  match s.toList with
  | '\ufeff' :: rest => String.ofList rest
  | _ => s

end Settings

/-- A settings file: its path within the directory of settings, and its text. -/
structure SettingsFile where
  name : String
  text : String

namespace SettingsFile

/-- The directory of settings, within the working directory. -/
def directory : String := "config"

/-- The parts of a path. -/
def parts : List Char → List (List Char)
  | [] => [[]]
  | '/' :: rest => [] :: parts rest
  | c :: rest =>
    match parts rest with
    | part :: more => (c :: part) :: more
    | [] => [[c]]

/-- Whether a part of a path leads nowhere else. -/
def stays (part : List Char) : Bool := part = [] || part = ['.']

/-- A place, after one more part of a path; two points lead back. -/
def step (at_ : List (List Char)) (part : List Char) : List (List Char) :=
  if part = ['.', '.'] then at_.dropLast else at_ ++ [part]

/-- Where a file is, from the working directory on. -/
def place (f : SettingsFile) : List (List Char) :=
  ((parts f.name.toList).filter fun part => !stays part).foldl step [directory.toList]

/-- Whether there is a directory at a place; the ones on the way to files are there. -/
def isDirectory (files : List SettingsFile) (at_ : List (List Char)) : Bool :=
  at_ = [] || at_ = [directory.toList]
    || files.any fun f => at_.isPrefixOf f.place && decide (at_.length < f.place.length)

/-- The place that is reached over the parts of a path; only out of a directory do two points lead back. -/
def reach (files : List SettingsFile) (at_ : List (List Char)) : List (List Char) → Option (List (List Char))
  | [] => some at_
  | part :: rest =>
    if part = ['.', '.'] && !(at_ ≠ [] && isDirectory files at_) then none
    else reach files (step at_ part) rest

/-- The text of the file at a place; of two, the later one has replaced the other. -/
def textAt? (files : List SettingsFile) (at_ : List (List Char)) : Option String :=
  (files.reverse.find? fun f => f.place = at_).map (·.text)

/-- The ending of a file name: what follows its last point, unless nothing stands before that point. -/
def ending? (name : List Char) : Option String :=
  let ending := (name.reverse.takeWhile (· ≠ '.')).reverse
  if ending.length + 1 < name.length then some (String.ofList ending) else none

/-- The file that a name means: its format and its text. -/
def find? (files : List SettingsFile) (name : String) : Option (FileFormat × String) := do
  let given := parts name.toList
  let at_ ← reach files [directory.toList] (given.filter fun part => !stays part)
  let last ← at_.getLast?
  let exact := if given.getLast?.all stays then none else textAt? files at_
  match exact with
  | some text =>
    let format ← (ending? last).bind FileFormat.ofEnding?
    pure (format, text)
  | none =>
    if given.reverse.find? (fun part => !stays part) = some ['.', '.'] then none
    else
      FileFormat.all.findSome? fun (format, ending) =>
        (textAt? files (at_.dropLast ++ [last ++ '.' :: ending.toList])).map (format, ·)

end SettingsFile

end Gatehouse
