import Gatehouse.Data.Table
import Gatehouse.Data.Binary64
/-!
The values that extensions exchange, and records of them. A record accessor answers only when the
field is there and of the asked kind.
-/

namespace Gatehouse

/-- A value of a record. -/
inductive Value where
  | null
  | bool (b : Bool)
  | int (n : Int)
  | float (x : Binary64)
  | text (s : String)
  | list (items : List Value)
  | record (fields : Table String Value)

/-- A record: named values. -/
abbrev Record := Table String Value

namespace Value

instance : Inhabited Value := ⟨null⟩

/-- The text of a text value. -/
def text? : Value → Option String
  | text s => some s
  | _ => none

/-- The name that a value chooses: a text, or a record that holds nothing but null under that name. -/
def choice? : Value → Option String
  | text s => some s
  | record ⟨[(s, null)]⟩ => some s
  | _ => none

/-- Whether an integer fits 64 bits with sign. -/
def fitsWord (n : Int) : Bool := -0x8000000000000000 ≤ n && n < 0x8000000000000000

/-- The number of an integer value that fits 64 bits with sign. -/
def int? : Value → Option Int
  | int n => if fitsWord n then some n else none
  | _ => none

/-- The record of a record value. -/
def record? : Value → Option Record
  | record r => some r
  | _ => none

/-- The items of a list value. -/
def list? : Value → Option (List Value)
  | list xs => some xs
  | _ => none

/-- Whether a value is the null value. -/
def isNull : Value → Bool
  | null => true
  | _ => false

/-- A value, or null in its absence. -/
def ofOption (f : α → Value) : Option α → Value
  | some a => f a
  | none => null

mutual

/-- Equality of values; the order of a record's fields counts. -/
def beq : Value → Value → Bool
  | null, null => true
  | bool a, bool b => a == b
  | int a, int b => a == b
  | float a, float b => a == b
  | text a, text b => a == b
  | list as, list bs => beqList as bs
  | record ⟨as⟩, record ⟨bs⟩ => beqFields as bs
  | _, _ => false

def beqList : List Value → List Value → Bool
  | [], [] => true
  | a :: as, b :: bs => beq a b && beqList as bs
  | _, _ => false

def beqFields : List (String × Value) → List (String × Value) → Bool
  | [], [] => true
  | (k, a) :: as, (l, b) :: bs => k == l && beq a b && beqFields as bs
  | _, _ => false

end

instance : BEq Value := ⟨beq⟩

mutual

/-- How deep lists and records lie in each other. -/
def depth : Value → Nat
  | list items => depthOfItems items + 1
  | record ⟨fields⟩ => depthOfFields fields + 1
  | _ => 0

def depthOfItems : List Value → Nat
  | [] => 0
  | v :: rest => max (depth v) (depthOfItems rest)

def depthOfFields : List (String × Value) → Nat
  | [] => 0
  | (_, v) :: rest => max (depth v) (depthOfFields rest)

end

end Value

namespace Record

instance : BEq Record := ⟨fun a b => Value.beqFields a.entries b.entries⟩

/-- The text under a key. -/
def text? (r : Record) (k : String) : Option String := (r.find? k).bind Value.text?

/-- The integer under a key. -/
def int? (r : Record) (k : String) : Option Int := (r.find? k).bind Value.int?

/-- The record under a key. -/
def record? (r : Record) (k : String) : Option Record := (r.find? k).bind Value.record?

/-- The records in the list under a key; other items, and anything but a list, count for none. -/
def records (r : Record) (k : String) : List Record :=
  match r.find? k with
  | some (.list items) => items.filterMap Value.record?
  | _ => []

/-- Binds a key to a text. -/
def insertText (r : Record) (k s : String) : Record := r.insert k (.text s)

/-- Binds a key to a text, if there is one. -/
def insertText? (r : Record) (k : String) (s : Option String) : Record :=
  match s with
  | some s => r.insertText k s
  | none => r

theorem find?_insertText?_of_ne (r : Record) {k k' : String} (s : Option String) (h : k ≠ k') :
    (r.insertText? k s).find? k' = r.find? k' := by
  cases s with
  | none => rfl
  | some s => exact Table.find?_insert_of_ne r _ h

end Record

end Gatehouse
