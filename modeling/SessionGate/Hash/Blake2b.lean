import SessionGate.Hash.Words

/-!
# The BLAKE2b hash

BLAKE2b takes its input in blocks of 128 bytes into a chain of eight words and gives a digest of
1 to 64 bytes. It is used here without a key, salt or personalisation.
-/

namespace SessionGate.Hash.Blake2b

/-- The first row of the initial chain. -/
def initialLow : Quad :=
  ⟨0x6a09e667f3bcc908, 0xbb67ae8584caa73b, 0x3c6ef372fe94f82b, 0xa54ff53a5f1d36f1⟩

/-- The second row of the initial chain. -/
def initialHigh : Quad :=
  ⟨0x510e527fade682d1, 0x9b05688c2b3e6c1f, 0x1f83d9abfb41bd6b, 0x5be0cd19137e2179⟩

/-- The order in which each of the twelve rounds reads the sixteen message words. -/
def schedule : List (List Nat) :=
  [[0, 1, 2, 3, 4, 5, 6, 7, 8, 9, 10, 11, 12, 13, 14, 15],
    [14, 10, 4, 8, 9, 15, 13, 6, 1, 12, 0, 2, 11, 7, 5, 3],
    [11, 8, 12, 0, 5, 2, 15, 13, 10, 14, 3, 6, 7, 1, 9, 4],
    [7, 9, 3, 1, 13, 12, 11, 14, 2, 6, 5, 10, 4, 0, 15, 8],
    [9, 0, 5, 7, 2, 4, 10, 15, 14, 1, 11, 12, 6, 8, 3, 13],
    [2, 12, 6, 10, 0, 11, 8, 3, 4, 13, 7, 5, 15, 14, 1, 9],
    [12, 5, 1, 15, 14, 13, 4, 10, 0, 7, 6, 3, 9, 2, 8, 11],
    [13, 11, 7, 14, 12, 1, 3, 9, 5, 0, 15, 4, 8, 6, 2, 10],
    [6, 15, 14, 9, 11, 3, 0, 8, 12, 2, 13, 7, 1, 4, 10, 5],
    [10, 2, 8, 4, 7, 6, 1, 5, 15, 11, 9, 14, 3, 12, 13, 0],
    [0, 1, 2, 3, 4, 5, 6, 7, 8, 9, 10, 11, 12, 13, 14, 15],
    [14, 10, 4, 8, 9, 15, 13, 6, 1, 12, 0, 2, 11, 7, 5, 3]]

/-- Mix two message words into four words of the state. -/
@[inline] def mix (x y : UInt64) (q : Quad) : Quad :=
  let a := q.w0 + q.w1 + x
  let d := rotateRight (q.w3 ^^^ a) 32
  let c := q.w2 + d
  let b := rotateRight (q.w1 ^^^ c) 24
  let a := a + b + y
  let d := rotateRight (d ^^^ a) 16
  let c := c + d
  let b := rotateRight (b ^^^ c) 63
  ⟨a, b, c, d⟩

/-- One round: the columns, then the diagonals, each with the next two message words. -/
def round (message : Array UInt64) (order : List Nat) (grid : Grid) : Grid :=
  let word (position : Nat) : UInt64 := message.getD (order.getD position 0) 0
  let grid := grid.mixColumns (mix (word 0) (word 1)) (mix (word 2) (word 3))
    (mix (word 4) (word 5)) (mix (word 6) (word 7))
  grid.mixDiagonals (mix (word 8) (word 9)) (mix (word 10) (word 11))
    (mix (word 12) (word 13)) (mix (word 14) (word 15))

/-- The chain between two blocks: eight words in two rows. -/
structure Chain where
  low : Quad
  high : Quad
  deriving DecidableEq

/-- The chain before the first block of an input whose digest has `size` bytes. -/
def start (size : Nat) : Chain :=
  ⟨{ initialLow with w0 := initialLow.w0 ^^^ 0x01010000 ^^^ UInt64.ofNat size }, initialHigh⟩

/-- Take one block of 128 bytes into the chain. `count` is the number of input bytes up to the
end of the block, and `isLast` marks the final block. -/
def compress (chain : Chain) (block : Octets) (count : Nat) (isLast : Bool) : Chain :=
  let message := (wordsOf block).toArray
  let finish : UInt64 := if isLast then 0xffffffffffffffff else 0
  let tail : Quad :=
    { initialHigh with
      w0 := initialHigh.w0 ^^^ UInt64.ofNat count
      w1 := initialHigh.w1 ^^^ UInt64.ofNat (count / 18446744073709551616)
      w2 := initialHigh.w2 ^^^ finish }
  let mixed := schedule.foldl (fun grid order => round message order grid)
    ⟨chain.low, chain.high, initialLow, tail⟩
  ⟨(chain.low.xor mixed.r0).xor mixed.r2, (chain.high.xor mixed.r1).xor mixed.r3⟩

/-- Take all remaining input, of which `count` bytes went before. The last block is filled with
zero bytes; an empty input is one such block. -/
def absorb (chain : Chain) (count : Nat) (input : Octets) : Chain :=
  let rest := input.drop 128
  if rest.isEmpty then
    compress chain (input ++ List.replicate (128 - input.length) 0) (count + input.length) true
  else
    absorb (compress chain (input.take 128) (count + 128) false) (count + 128) rest
termination_by input.length
decreasing_by
  rename_i notEmpty
  have longer : 0 < (input.drop 128).length := by
    rw [List.length_pos_iff]
    intro empty
    exact notEmpty (by simp [rest, empty])
  simp only [List.length_drop] at longer ⊢
  omega

/-- The BLAKE2b digest of `size` bytes, for sizes from 1 to 64. -/
def digest (size : Nat) (input : Octets) : Octets :=
  let chain := absorb (start size) 0 input
  ((chain.low.toList ++ chain.high.toList).flatMap wordOctets).take size

theorem length_digest (size : Nat) (input : Octets) :
    (digest size input).length = min size 64 := by
  simp [digest, Quad.toList, wordOctets]

end SessionGate.Hash.Blake2b
