import Gatehouse.Password.Blake2b
/-!
The password hash function Argon2, in its three variants and both versions. A block of 1024 bytes is
eight rows of sixteen words.
-/

namespace Gatehouse.Argon2

/-- Sixteen words: a row of a block, or one of its columns. -/
structure Row where
  a : UInt64
  b : UInt64
  c : UInt64
  d : UInt64
  e : UInt64
  f : UInt64
  g : UInt64
  h : UInt64
  i : UInt64
  j : UInt64
  k : UInt64
  l : UInt64
  m : UInt64
  n : UInt64
  o : UInt64
  p : UInt64
deriving Inhabited

/-- A block of the memory. -/
structure Block where
  a : Row
  b : Row
  c : Row
  d : Row
  e : Row
  f : Row
  g : Row
  h : Row
deriving Inhabited

/-- Four words. -/
structure Quad where
  a : UInt64
  b : UInt64
  c : UInt64
  d : UInt64

/-- Addition, strengthened by the product of the lower halves. -/
@[inline] def blend (x y : UInt64) : UInt64 :=
  x + y + 2 * ((x &&& 0xffffffff) * (y &&& 0xffffffff))

open Blake2b (rotateRight)

/-- Mixes four words. -/
@[inline] def mix (a b c d : UInt64) : Quad :=
  let a := blend a b
  let d := rotateRight (d ^^^ a) 32
  let c := blend c d
  let b := rotateRight (b ^^^ c) 24
  let a := blend a b
  let d := rotateRight (d ^^^ a) 16
  let c := blend c d
  let b := rotateRight (b ^^^ c) 63
  ⟨a, b, c, d⟩

/-- One round on sixteen words: columns of four, then diagonals. -/
def permute (r : Row) : Row :=
  let q0 := mix r.a r.e r.i r.m
  let q1 := mix r.b r.f r.j r.n
  let q2 := mix r.c r.g r.k r.o
  let q3 := mix r.d r.h r.l r.p
  let s0 := mix q0.a q1.b q2.c q3.d
  let s1 := mix q1.a q2.b q3.c q0.d
  let s2 := mix q2.a q3.b q0.c q1.d
  let s3 := mix q3.a q0.b q1.c q2.d
  { a := s0.a, b := s1.a, c := s2.a, d := s3.a
    e := s3.b, f := s0.b, g := s1.b, h := s2.b
    i := s2.c, j := s3.c, k := s0.c, l := s1.c
    m := s1.d, n := s2.d, o := s3.d, p := s0.d }

/-- The bitwise sum of two rows. -/
def Row.xor (x y : Row) : Row :=
  { a := x.a ^^^ y.a, b := x.b ^^^ y.b, c := x.c ^^^ y.c, d := x.d ^^^ y.d
    e := x.e ^^^ y.e, f := x.f ^^^ y.f, g := x.g ^^^ y.g, h := x.h ^^^ y.h
    i := x.i ^^^ y.i, j := x.j ^^^ y.j, k := x.k ^^^ y.k, l := x.l ^^^ y.l
    m := x.m ^^^ y.m, n := x.n ^^^ y.n, o := x.o ^^^ y.o, p := x.p ^^^ y.p }

/-- The bitwise sum of two blocks. -/
def Block.xor (x y : Block) : Block :=
  { a := x.a.xor y.a, b := x.b.xor y.b, c := x.c.xor y.c, d := x.d.xor y.d
    e := x.e.xor y.e, f := x.f.xor y.f, g := x.g.xor y.g, h := x.h.xor y.h }

/-- Applies the round to each row. -/
def Block.permuteRows (x : Block) : Block :=
  { a := permute x.a, b := permute x.b, c := permute x.c, d := permute x.d
    e := permute x.e, f := permute x.f, g := permute x.g, h := permute x.h }

/-- The block whose rows are the columns of this one; a column is two words wide. -/
def Block.transpose (x : Block) : Block :=
  { a := ⟨x.a.a, x.a.b, x.b.a, x.b.b, x.c.a, x.c.b, x.d.a, x.d.b,
          x.e.a, x.e.b, x.f.a, x.f.b, x.g.a, x.g.b, x.h.a, x.h.b⟩
    b := ⟨x.a.c, x.a.d, x.b.c, x.b.d, x.c.c, x.c.d, x.d.c, x.d.d,
          x.e.c, x.e.d, x.f.c, x.f.d, x.g.c, x.g.d, x.h.c, x.h.d⟩
    c := ⟨x.a.e, x.a.f, x.b.e, x.b.f, x.c.e, x.c.f, x.d.e, x.d.f,
          x.e.e, x.e.f, x.f.e, x.f.f, x.g.e, x.g.f, x.h.e, x.h.f⟩
    d := ⟨x.a.g, x.a.h, x.b.g, x.b.h, x.c.g, x.c.h, x.d.g, x.d.h,
          x.e.g, x.e.h, x.f.g, x.f.h, x.g.g, x.g.h, x.h.g, x.h.h⟩
    e := ⟨x.a.i, x.a.j, x.b.i, x.b.j, x.c.i, x.c.j, x.d.i, x.d.j,
          x.e.i, x.e.j, x.f.i, x.f.j, x.g.i, x.g.j, x.h.i, x.h.j⟩
    f := ⟨x.a.k, x.a.l, x.b.k, x.b.l, x.c.k, x.c.l, x.d.k, x.d.l,
          x.e.k, x.e.l, x.f.k, x.f.l, x.g.k, x.g.l, x.h.k, x.h.l⟩
    g := ⟨x.a.m, x.a.n, x.b.m, x.b.n, x.c.m, x.c.n, x.d.m, x.d.n,
          x.e.m, x.e.n, x.f.m, x.f.n, x.g.m, x.g.n, x.h.m, x.h.n⟩
    h := ⟨x.a.o, x.a.p, x.b.o, x.b.p, x.c.o, x.c.p, x.d.o, x.d.p,
          x.e.o, x.e.p, x.f.o, x.f.p, x.g.o, x.g.p, x.h.o, x.h.p⟩ }

/-- Makes one block of two. -/
def compress (x y : Block) : Block :=
  let r := x.xor y
  (r.permuteRows.transpose.permuteRows.transpose).xor r

/-- The row of sixteen words. -/
def Row.ofWords (ws : List UInt64) : Row :=
  let w (i : Nat) : UInt64 := ws.getD i 0
  ⟨w 0, w 1, w 2, w 3, w 4, w 5, w 6, w 7, w 8, w 9, w 10, w 11, w 12, w 13, w 14, w 15⟩

/-- The block of 128 words. -/
def Block.ofWords (ws : List UInt64) : Block :=
  let r (i : Nat) : Row := .ofWords ((ws.drop (16 * i)).take 16)
  ⟨r 0, r 1, r 2, r 3, r 4, r 5, r 6, r 7⟩

def Row.words (r : Row) : List UInt64 :=
  [r.a, r.b, r.c, r.d, r.e, r.f, r.g, r.h, r.i, r.j, r.k, r.l, r.m, r.n, r.o, r.p]

def Block.words (x : Block) : List UInt64 :=
  [x.a, x.b, x.c, x.d, x.e, x.f, x.g, x.h].flatMap Row.words

/-- The block of zeros. -/
def Block.zero : Block := .ofWords []

/-- Which blocks are mixed is decided by the password (`d`), by position (`i`), or by position in the
first half of the first pass and by the password afterwards (`id`). -/
inductive Variant where
  | d
  | i
  | id
deriving DecidableEq, Repr

/-- The number of a variant. -/
def Variant.number : Variant → Nat
  | .d => 0
  | .i => 1
  | .id => 2

/-- The older version overwrites a block in later passes, the newer one mixes into it. -/
inductive Version where
  | v10
  | v13
deriving DecidableEq, Repr

def Version.number : Version → Nat
  | .v10 => 0x10
  | .v13 => 0x13

/-- What a hash is made with. -/
structure Settings where
  variant : Variant := .id
  version : Version := .v13
  /-- The memory, in blocks. -/
  memory : Nat := 19456
  /-- The number of passes over the memory. -/
  passes : Nat := 2
  /-- The number of lanes of the memory. -/
  lanes : Nat := 1
  /-- Further data that the hash depends on. -/
  data : List UInt8 := []
  /-- The length of the hash in bytes. -/
  size : Nat := 32
deriving DecidableEq, Repr

namespace Settings

/-- The blocks of a quarter of a lane. -/
def segment (s : Settings) : Nat := s.memory / (4 * s.lanes)

/-- The blocks of a lane. -/
def lane (s : Settings) : Nat := 4 * s.segment

end Settings

/-- A number in four bytes, the lowest first. -/
def bytes4 (n : Nat) : List UInt8 := Blake2b.wordBytes 4 (UInt64.ofNat n)

/-- Bytes after their count. -/
def counted (bytes : List UInt8) : List UInt8 := bytes4 bytes.length ++ bytes

/-- Pieces of a long hash: the first half of each hash but the last one. -/
def longHashRest : Nat → Nat → List UInt8 → List UInt8
  | 0, _, _ => []
  | fuel + 1, left, v =>
    if left ≤ 64 then Blake2b.hash left v
    else
      let v := Blake2b.hash 64 v
      v.take 32 ++ longHashRest fuel (left - 32) v

/-- A hash of any length. -/
def longHash (size : Nat) (message : List UInt8) : List UInt8 :=
  let message := bytes4 size ++ message
  if size ≤ 64 then Blake2b.hash size message
  else
    let v := Blake2b.hash 64 message
    v.take 32 ++ longHashRest size (size - 32) v

/-- The hash of all inputs. -/
def seed (s : Settings) (password salt : List UInt8) : List UInt8 :=
  Blake2b.hash 64 <|
    bytes4 s.lanes ++ bytes4 s.size ++ bytes4 s.memory ++ bytes4 s.passes ++ bytes4 s.version.number
      ++ bytes4 s.variant.number ++ counted password ++ counted salt ++ counted [] ++ counted s.data

/-- One of the first two blocks of a lane. -/
def firstBlock (seed : List UInt8) (column lane : Nat) : Block :=
  .ofWords (Blake2b.words 128 (longHash 1024 (seed ++ bytes4 column ++ bytes4 lane)))

/-- Where in the filling of the memory we are. -/
structure Position where
  pass : Nat
  slice : Nat
  lane : Nat

/-- The words that decide the references by position: 128 of them. -/
def addresses (s : Settings) (p : Position) (counter : Nat) : Array UInt64 :=
  let w (n : Nat) : UInt64 := UInt64.ofNat n
  let input := Block.ofWords
    [w p.pass, w p.lane, w p.slice, w (s.lanes * s.lane), w s.passes, w s.variant.number, w counter]
  (compress .zero (compress .zero input)).words.toArray

/-- Whether position decides the references. -/
def byPosition (s : Settings) (p : Position) : Bool :=
  match s.variant with
  | .d => false
  | .i => true
  | .id => p.pass == 0 && p.slice < 2

/-- Where in the memory the block to mix in stands, for the `index`-th block of a segment. -/
def reference (s : Settings) (p : Position) (index : Nat) (word : UInt64) : Nat :=
  let j1 := (word &&& 0xffffffff).toNat
  let j2 := (word >>> 32).toNat
  let lane := if p.pass = 0 ∧ p.slice = 0 then p.lane else j2 % s.lanes
  let before := if p.pass = 0 then p.slice * s.segment else s.lane - s.segment
  let area := if lane = p.lane then before + index - 1 else if index = 0 then before - 1 else before
  -- Squaring the word prefers blocks that were written late.
  let back := (area * ((j1 * j1) >>> 32)) >>> 32
  let start := if p.pass = 0 ∨ p.slice = 3 then 0 else (p.slice + 1) * s.segment
  lane * s.lane + (start + (area - 1 - back)) % s.lane

/-- Fills the blocks of a segment from the `index`-th one on; `left` are still to be filled. -/
def fillSegment (s : Settings) (p : Position) : Nat → Nat → Array UInt64 → Array Block → Array Block
  | 0, _, _, memory => memory
  | left + 1, index, words, memory =>
    let column := p.slice * s.segment + index
    let here := p.lane * s.lane + column
    let previous := memory.getD (if column = 0 then here + s.lane - 1 else here - 1) .zero
    let words := if byPosition s p && index % 128 == 0 then addresses s p (index / 128 + 1) else words
    let word := if byPosition s p then words.getD (index % 128) 0 else previous.a.a
    let block := compress previous (memory.getD (reference s p index word) .zero)
    let block :=
      if p.pass ≠ 0 ∧ s.version = .v13 then block.xor (memory.getD here .zero) else block
    fillSegment s p left (index + 1) words (memory.setIfInBounds here block)

/-- Fills a segment; the first two blocks of a lane are there already. -/
def fillSegmentAt (s : Settings) (memory : Array Block) (p : Position) : Array Block :=
  let first := if p.pass = 0 ∧ p.slice = 0 then 2 else 0
  let words := if byPosition s p then addresses s p 1 else #[]
  fillSegment s p (s.segment - first) first words memory

/-- The order in which the segments are filled. -/
def positions (s : Settings) : List Position :=
  (List.range s.passes).flatMap fun pass =>
    (List.range 4).flatMap fun slice =>
      (List.range s.lanes).map fun lane => ⟨pass, slice, lane⟩

/-- The memory before the first pass. -/
def start (s : Settings) (seed : List UInt8) : Array Block :=
  (List.range s.lanes).foldl (fun memory lane =>
    (memory.setIfInBounds (lane * s.lane) (firstBlock seed 0 lane)).setIfInBounds
      (lane * s.lane + 1) (firstBlock seed 1 lane))
    (Array.replicate (s.lanes * s.lane) .zero)

/-- The hash of a password with a salt. -/
def hash (s : Settings) (password salt : List UInt8) : List UInt8 :=
  let memory := (positions s).foldl (fillSegmentAt s) (start s (seed s password salt))
  let last := (List.range s.lanes).foldl
    (fun (block : Block) lane => block.xor (memory.getD (lane * s.lane + s.lane - 1) .zero)) .zero
  longHash s.size (last.words.flatMap (Blake2b.wordBytes 8))

end Gatehouse.Argon2
