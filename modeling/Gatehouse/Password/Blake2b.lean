/-!
The hash function BLAKE2b, without key, for outputs of 1 to 64 bytes.
-/

namespace Gatehouse.Blake2b

/-- The initial chaining words. -/
def initial : Array UInt64 := #[
  0x6a09e667f3bcc908, 0xbb67ae8584caa73b, 0x3c6ef372fe94f82b, 0xa54ff53a5f1d36f1,
  0x510e527fade682d1, 0x9b05688c2b3e6c1f, 0x1f83d9abfb41bd6b, 0x5be0cd19137e2179]

/-- The order in which each round takes the message words; the last two rounds are as the first. -/
def schedule : List (List Nat) := [
  [0, 1, 2, 3, 4, 5, 6, 7, 8, 9, 10, 11, 12, 13, 14, 15],
  [14, 10, 4, 8, 9, 15, 13, 6, 1, 12, 0, 2, 11, 7, 5, 3],
  [11, 8, 12, 0, 5, 2, 15, 13, 10, 14, 3, 6, 7, 1, 9, 4],
  [7, 9, 3, 1, 13, 12, 11, 14, 2, 6, 5, 10, 4, 0, 15, 8],
  [9, 0, 5, 7, 2, 4, 10, 15, 14, 1, 11, 12, 6, 8, 3, 13],
  [2, 12, 6, 10, 0, 11, 8, 3, 4, 13, 7, 5, 15, 14, 1, 9],
  [12, 5, 1, 15, 14, 13, 4, 10, 0, 7, 6, 3, 9, 2, 8, 11],
  [13, 11, 7, 14, 12, 1, 3, 9, 5, 0, 15, 4, 8, 6, 2, 10],
  [6, 15, 14, 9, 11, 3, 0, 8, 12, 2, 13, 7, 1, 4, 10, 5],
  [10, 2, 8, 4, 7, 6, 1, 5, 15, 11, 9, 14, 3, 12, 13, 0],
  [0, 1, 2, 3, 4, 5, 6, 7, 8, 9, 10, 11, 12, 13, 14, 15],
  [14, 10, 4, 8, 9, 15, 13, 6, 1, 12, 0, 2, 11, 7, 5, 3]]

/-- The four words that each step of a round mixes: columns, then diagonals. -/
def quarters : List (Nat × Nat × Nat × Nat) := [
  (0, 4, 8, 12), (1, 5, 9, 13), (2, 6, 10, 14), (3, 7, 11, 15),
  (0, 5, 10, 15), (1, 6, 11, 12), (2, 7, 8, 13), (3, 4, 9, 14)]

@[inline] def rotateRight (x : UInt64) (n : UInt64) : UInt64 := (x >>> n) ||| (x <<< (64 - n))

/-- Mixes two message words into four working words. -/
def mix (v : Array UInt64) (places : Nat × Nat × Nat × Nat) (x y : UInt64) : Array UInt64 :=
  let (i, j, k, l) := places
  let a := v.getD i 0
  let b := v.getD j 0
  let c := v.getD k 0
  let d := v.getD l 0
  let a := a + b + x
  let d := rotateRight (d ^^^ a) 32
  let c := c + d
  let b := rotateRight (b ^^^ c) 24
  let a := a + b + y
  let d := rotateRight (d ^^^ a) 16
  let c := c + d
  let b := rotateRight (b ^^^ c) 63
  (((v.setIfInBounds i a).setIfInBounds j b).setIfInBounds k c).setIfInBounds l d

/-- The message words of a round in pairs. -/
def pairs (m : Array UInt64) : List Nat → List (UInt64 × UInt64)
  | i :: j :: rest => (m.getD i 0, m.getD j 0) :: pairs m rest
  | _ => []

/-- One round. -/
def round (m v : Array UInt64) (order : List Nat) : Array UInt64 :=
  (quarters.zip (pairs m order)).foldl (fun v (places, x, y) => mix v places x y) v

/-- The chaining words after one more block of 16 message words; `count` bytes are read by then. -/
def compress (h m : Array UInt64) (count : Nat) (last : Bool) : Array UInt64 :=
  let v := h ++ initial
  let v := v.modify 12 (· ^^^ UInt64.ofNat count)
  let v := v.modify 13 (· ^^^ UInt64.ofNat (count >>> 64))
  let v := if last then v.modify 14 (~~~ ·) else v
  let v := schedule.foldl (round m) v
  Array.ofFn fun i : Fin 8 => h.getD i 0 ^^^ v.getD i 0 ^^^ v.getD (i + 8) 0

/-- The number that eight bytes write, the lowest first. -/
def word (bytes : List UInt8) : UInt64 := bytes.foldr (fun b w => (w <<< 8) ||| b.toUInt64) 0

/-- The words of up to `count` groups of eight bytes; missing bytes are zeros. -/
def words : Nat → List UInt8 → List UInt64
  | 0, _ => []
  | count + 1, bytes => word (bytes.take 8) :: words count (bytes.drop 8)

/-- The lowest `count` bytes of a word, the lowest first. -/
def wordBytes : Nat → UInt64 → List UInt8
  | 0, _ => []
  | count + 1, w => w.toUInt8 :: wordBytes count (w >>> 8)

/-- Takes in a message block by block; the last block is the one that nothing follows. -/
def absorb : Nat → Array UInt64 → Nat → List UInt8 → Array UInt64
  | 0, h, _, _ => h
  | fuel + 1, h, count, bytes =>
    let block := bytes.take 128
    let rest := bytes.drop 128
    let count := count + block.length
    let h := compress h (words 16 block).toArray count rest.isEmpty
    if rest.isEmpty then h else absorb fuel h count rest

/-- The hash of a message. -/
def hash (size : Nat) (message : List UInt8) : List UInt8 :=
  let h := initial.modify 0 (· ^^^ 0x01010000 ^^^ UInt64.ofNat size)
  ((absorb (message.length / 128 + 1) h 0 message).toList.flatMap (wordBytes 8)).take size

end Gatehouse.Blake2b
