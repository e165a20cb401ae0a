import SessionGate.Octets

/-!
# Sixty-four-bit words

Hash states are grids of 64-bit words. A grid has four rows of four words; its columns and its
diagonals are the quadruples that a round mixes.
-/

namespace SessionGate.Hash

/-- The word with its bits moved down by `amount`, those that fall out entering at the top. -/
@[inline] def rotateRight (word amount : UInt64) : UInt64 :=
  (word >>> amount) ||| (word <<< (64 - amount))

/-- Eight bytes as one word, lowest byte first. -/
@[inline] def joinWord (b0 b1 b2 b3 b4 b5 b6 b7 : UInt8) : UInt64 :=
  b0.toUInt64 ||| (b1.toUInt64 <<< 8) ||| (b2.toUInt64 <<< 16) ||| (b3.toUInt64 <<< 24) |||
    (b4.toUInt64 <<< 32) ||| (b5.toUInt64 <<< 40) ||| (b6.toUInt64 <<< 48) |||
    (b7.toUInt64 <<< 56)

/-- The eight bytes of a word, lowest first. -/
def wordOctets (word : UInt64) : Octets :=
  [word.toUInt8, (word >>> 8).toUInt8, (word >>> 16).toUInt8, (word >>> 24).toUInt8,
    (word >>> 32).toUInt8, (word >>> 40).toUInt8, (word >>> 48).toUInt8, (word >>> 56).toUInt8]

/-- The whole words of a byte sequence; fewer than eight bytes at the end make no word. -/
def wordsOf : Octets → List UInt64
  | b0 :: b1 :: b2 :: b3 :: b4 :: b5 :: b6 :: b7 :: rest =>
      joinWord b0 b1 b2 b3 b4 b5 b6 b7 :: wordsOf rest
  | _ => []

structure Quad where
  w0 : UInt64
  w1 : UInt64
  w2 : UInt64
  w3 : UInt64
  deriving DecidableEq

/-- Sixteen words in four rows. -/
structure Grid where
  r0 : Quad
  r1 : Quad
  r2 : Quad
  r3 : Quad
  deriving DecidableEq

namespace Quad

@[inline] def xor (left right : Quad) : Quad :=
  ⟨left.w0 ^^^ right.w0, left.w1 ^^^ right.w1, left.w2 ^^^ right.w2, left.w3 ^^^ right.w3⟩

def toList (quad : Quad) : List UInt64 :=
  [quad.w0, quad.w1, quad.w2, quad.w3]

end Quad

namespace Grid

@[inline] def xor (left right : Grid) : Grid :=
  ⟨left.r0.xor right.r0, left.r1.xor right.r1, left.r2.xor right.r2, left.r3.xor right.r3⟩

def toList (grid : Grid) : List UInt64 :=
  grid.r0.toList ++ grid.r1.toList ++ grid.r2.toList ++ grid.r3.toList

/-- Mix the four columns, each by its own function. -/
@[inline] def mixColumns (m0 m1 m2 m3 : Quad → Quad) (grid : Grid) : Grid :=
  let c0 := m0 ⟨grid.r0.w0, grid.r1.w0, grid.r2.w0, grid.r3.w0⟩
  let c1 := m1 ⟨grid.r0.w1, grid.r1.w1, grid.r2.w1, grid.r3.w1⟩
  let c2 := m2 ⟨grid.r0.w2, grid.r1.w2, grid.r2.w2, grid.r3.w2⟩
  let c3 := m3 ⟨grid.r0.w3, grid.r1.w3, grid.r2.w3, grid.r3.w3⟩
  ⟨⟨c0.w0, c1.w0, c2.w0, c3.w0⟩, ⟨c0.w1, c1.w1, c2.w1, c3.w1⟩,
    ⟨c0.w2, c1.w2, c2.w2, c3.w2⟩, ⟨c0.w3, c1.w3, c2.w3, c3.w3⟩⟩

/-- Mix the four diagonals, each by its own function; a diagonal starts in the first row and
goes one column to the right with each row, around the edge. -/
@[inline] def mixDiagonals (m0 m1 m2 m3 : Quad → Quad) (grid : Grid) : Grid :=
  let d0 := m0 ⟨grid.r0.w0, grid.r1.w1, grid.r2.w2, grid.r3.w3⟩
  let d1 := m1 ⟨grid.r0.w1, grid.r1.w2, grid.r2.w3, grid.r3.w0⟩
  let d2 := m2 ⟨grid.r0.w2, grid.r1.w3, grid.r2.w0, grid.r3.w1⟩
  let d3 := m3 ⟨grid.r0.w3, grid.r1.w0, grid.r2.w1, grid.r3.w2⟩
  ⟨⟨d0.w0, d1.w0, d2.w0, d3.w0⟩, ⟨d3.w1, d0.w1, d1.w1, d2.w1⟩,
    ⟨d2.w2, d3.w2, d0.w2, d1.w2⟩, ⟨d1.w3, d2.w3, d3.w3, d0.w3⟩⟩

end Grid

end SessionGate.Hash
