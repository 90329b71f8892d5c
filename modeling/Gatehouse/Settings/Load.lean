import Gatehouse.Data.Numeral
import Gatehouse.Fault
import Gatehouse.Settings.File
import Gatehouse.Settings.Layer
import Gatehouse.Settings.Reading
/-!
Loading settings: from one text, or from the files of a directory and the variables of the environment.
The file `default` comes first, then the one that is named for the environment, then the variables.
-/

namespace Gatehouse

namespace EnvironmentVariable

/-- What the names of the variables start with. -/
def start : List Char := "warden__".toList

/-- Puts a point in place of each double underscore. -/
def pointed : List Char → List Char
  | '_' :: '_' :: rest => '.' :: pointed rest
  | c :: rest => c :: pointed rest
  | [] => []

/-- The path of the setting that a variable sets, if it sets one. -/
def path? (name : String) : Option String :=
  let cs := (Lowercase.lower name).toList
  if start.isPrefixOf cs then some (String.ofList (pointed (cs.drop start.length))) else none

/-- The number that a text writes, if it is no integer of 64 bits. -/
def float? (s : String) : Option Binary64 :=
  let (negative, rest) := Numeral.sign s.toList
  let name := String.ofList (rest.map Char.toLower)
  if name = "inf" ∨ name = "infinity" then some (.infinity negative)
  else if name = "nan" then some .nan
  else Numeral.fraction? s.toList

/-- The value of a variable: a truth value, else an integer, else a number, else the text itself. -/
def value (s : String) : Value :=
  let lower := Lowercase.lower s
  if lower = "true" then .bool true
  else if lower = "false" then .bool false
  else
    match Numeral.int? s.toList, float? s with
    | some n, _ => .int n
    | none, some x => .float x
    | none, none => .text s

/-- The layer of the variables. -/
def layer (assignments : List (String × String)) : Record :=
  .ofList (assignments.filterMap fun (name, s) => (path? name).map (·, value s))

end EnvironmentVariable

namespace Settings

/-- The layer of the file that a name means; without such a file there is nothing in it. -/
def fileLayer (files : List SettingsFile) (name : String) : Option Record :=
  match SettingsFile.find? files name with
  | some (format, text) => ofFormat? format (withoutMark text)
  | none => some ∅

/-- The settings of one text. -/
def ofToml (s : String) : Except Fault Settings :=
  let settings := do
    let layer ← Toml.ofText? s
    Reading.coercing.settings (.record (Layer.apply ∅ layer))
  match settings with
  | some settings => .ok settings
  | none => .error (.configuration "Configuration error")

/-- The layers of the files and the variables, the first one at the bottom. -/
def layers (files : List SettingsFile) (assignments : List (String × String)) (environment : String) :
    Option (List Record) := do
  let base ← fileLayer files "default"
  let own ← fileLayer files environment
  pure [base, own, EnvironmentVariable.layer assignments]

/-- The settings of the files and the variables. -/
def load (files : List SettingsFile) (assignments : List (String × String)) (environment : String) :
    Except Fault Settings :=
  match layers files assignments environment with
  | none => .error (.configuration "Failed to build config")
  | some layers =>
    match Reading.coercing.settings (.record (layers.foldl Layer.apply ∅)) with
    | some settings => .ok settings
    | none => .error (.configuration "Failed to deserialize config")

end Settings

end Gatehouse
