import Gatehouse.Data.NameSet
import Gatehouse.Data.Value
/-!
Types whose members can be written as values.
-/

namespace Gatehouse

/-- Types whose members can be written as values. -/
class ToValue (α : Type) where
  toValue : α → Value

export ToValue (toValue)

namespace ToValue

instance : ToValue Value := ⟨id⟩

instance : ToValue Bool := ⟨.bool⟩

instance : ToValue Int := ⟨.int⟩

instance : ToValue Nat := ⟨fun n => .int n⟩

instance : ToValue String := ⟨.text⟩

instance : ToValue Record := ⟨.record⟩

instance : ToValue NameSet := ⟨fun s => .list (s.toList.map .text)⟩

instance {α : Type} [ToValue α] : ToValue (List α) := ⟨fun xs => .list (xs.map toValue)⟩

/-- What is absent is null. -/
instance {α : Type} [ToValue α] : ToValue (Option α) := ⟨.ofOption toValue⟩

end ToValue

end Gatehouse
