import Gatehouse.Data.ValueText
/-!
Identifiers of 128 bits. Read with or without hyphens, in braces or as a name of the `urn:uuid:`
kind; always written with hyphens and in small letters.
-/

namespace Gatehouse

/-- An identifier. -/
structure ObjectId where
  value : BitVec 128
deriving DecidableEq, Inhabited

namespace ObjectId

/-- The identifier that stands for the system as a whole. -/
def bottom : ObjectId := ⟨0⟩

/-- The number that hexadecimal digits write, if all of them are. -/
def ofHex? (cs : List Char) : Option Nat :=
  cs.foldl (fun n c => do pure ((← n) * 16 + (← ValueText.hexDigit? c))) (some 0)

/-- The digits of a hyphenated text: groups of 8, 4, 4, 4 and 12. -/
def ungroup? (cs : List Char) : Option (List Char) :=
  if cs.length = 36 ∧ cs[8]? = some '-' ∧ cs[13]? = some '-' ∧ cs[18]? = some '-'
      ∧ cs[23]? = some '-' then
    some (cs.take 8 ++ (cs.drop 9).take 4 ++ (cs.drop 14).take 4 ++ (cs.drop 19).take 4 ++ cs.drop 24)
  else none

/-- The digits of a text in any of its forms. -/
def digits? (cs : List Char) : Option (List Char) :=
  if cs.length = 32 then some cs
  else if cs.length = 38 ∧ cs.head? = some '{' ∧ cs.getLast? = some '}' then
    ungroup? (cs.drop 1).dropLast
  else if cs.length = 45 ∧ cs.take 9 = "urn:uuid:".toList then ungroup? (cs.drop 9)
  else ungroup? cs

/-- The identifier that a text writes. -/
def ofText? (s : String) : Option ObjectId := do
  let n ← ofHex? (← digits? s.toList)
  pure ⟨BitVec.ofNat 128 n⟩

/-- The digits of an identifier, 32 of them. -/
def digits (id : ObjectId) : List Char :=
  (List.range 32).map fun i => ValueText.hexChar ((id.value.toNat >>> (4 * (31 - i))) % 16)

/-- The text of an identifier. -/
def toText (id : ObjectId) : String :=
  let cs := id.digits
  String.ofList (cs.take 8 ++ '-' :: (cs.drop 8).take 4 ++ '-' :: (cs.drop 12).take 4
    ++ '-' :: (cs.drop 16).take 4 ++ '-' :: cs.drop 20)

/-- The version number: the first digit of the third group. -/
def version (id : ObjectId) : Nat := (id.value.toNat >>> 76) % 16

/-- The random identifier of given bits: six of them give way to the version, 4, and the variant. -/
def ofRandom (bits : BitVec 128) : ObjectId :=
  let kept : BitVec 128 := 0xffffffffffff0fff3fffffffffffffff
  let marks : BitVec 128 := 0x00000000000040008000000000000000
  ⟨(bits &&& kept) ||| marks⟩

/-- The `n`-th identifier of a supply; the first `2 ^ 62` are distinct. -/
def nth (n : Nat) : ObjectId := ofRandom (BitVec.ofNat 128 n)

/-- Whether the first identifier is at most the second one, by their bits. -/
def ble (a b : ObjectId) : Bool := a.value.toNat ≤ b.value.toNat

end ObjectId

end Gatehouse
