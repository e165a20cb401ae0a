import SessionGate.Hash.Blake2b

/-!
# The Argon2id key derivation

Argon2id fills a matrix of 1024-byte blocks, one lane per row, from a password and a salt, and
folds the last column into a key. In the first half of the first pass the blocks to combine are
chosen without looking at the password; after that by the contents of the previous block. The
version is 0x13, and there is neither a secret nor associated data.
-/

namespace SessionGate.Hash.Argon2id

/-- What a derivation costs: passes over the memory, memory in KiB, lanes, and key bytes. -/
structure Costs where
  passes : Nat
  memory : Nat
  lanes : Nat
  keyLength : Nat
  deriving DecidableEq, Repr

/-- Why costs are refused. -/
inductive CostError where
  | memoryTooSmall
  | timeTooSmall
  | tooFewLanes
  | tooManyLanes
  | keyTooShort
  | keyTooLong
  deriving DecidableEq, Repr

def CostError.message : CostError → String
  | .memoryTooSmall => "memory cost is too small"
  | .timeTooSmall => "time cost is too small"
  | .tooFewLanes => "not enough threads"
  | .tooManyLanes => "too many threads"
  | .keyTooShort => "output is too short"
  | .keyTooLong => "output is too long"

/-- The first reason to refuse these costs: a lane needs eight blocks, a derivation at least one
pass and one lane, and a key at least four bytes. -/
def Costs.refusal? (costs : Costs) : Option CostError :=
  if costs.memory < 8 ∨ costs.memory < 8 * costs.lanes then some .memoryTooSmall
  else if costs.passes < 1 then some .timeTooSmall
  else if costs.lanes < 1 then some .tooFewLanes
  else if 0xffffff < costs.lanes then some .tooManyLanes
  else if costs.keyLength < 4 then some .keyTooShort
  else if 0xffffffff < costs.keyLength then some .keyTooLong
  else none

/-- A hash of any length: a short one is a single digest, a longer one takes half of each digest
in a chain and all of the last. -/
def lengthen (size : Nat) (input : Octets) : Octets :=
  if size ≤ 64 then
    Blake2b.digest size input
  else
    let link := Blake2b.digest 64 input
    link.take 32 ++ lengthen (size - 32) link

/-- The hash of `size` bytes used for blocks and for the key: its input starts with the size. -/
def longHash (size : Nat) (input : Octets) : Octets :=
  lengthen size (Octets.littleEndian32 size ++ input)

theorem length_lengthen (size : Nat) (input : Octets) : (lengthen size input).length = size := by
  induction size using Nat.strongRecOn generalizing input with
  | ind size ih =>
    rw [lengthen]
    split
    · rename_i short
      rw [Blake2b.length_digest]
      omega
    · rename_i long
      rw [List.length_append, ih (size - 32) (by omega), List.length_take, Blake2b.length_digest]
      omega

theorem length_longHash (size : Nat) (input : Octets) : (longHash size input).length = size :=
  length_lengthen size _

/-- A block of 128 words in eight rows of sixteen. -/
structure Block where
  g0 : Grid
  g1 : Grid
  g2 : Grid
  g3 : Grid
  g4 : Grid
  g5 : Grid
  g6 : Grid
  g7 : Grid
  deriving DecidableEq

namespace Block

def xor (left right : Block) : Block :=
  ⟨left.g0.xor right.g0, left.g1.xor right.g1, left.g2.xor right.g2, left.g3.xor right.g3,
    left.g4.xor right.g4, left.g5.xor right.g5, left.g6.xor right.g6, left.g7.xor right.g7⟩

/-- The block of the first 128 words; words that are missing are zero. -/
def ofWords (words : Array UInt64) : Block :=
  let quad (first : Nat) : Quad :=
    ⟨words.getD first 0, words.getD (first + 1) 0, words.getD (first + 2) 0,
      words.getD (first + 3) 0⟩
  let grid (row : Nat) : Grid :=
    ⟨quad (16 * row), quad (16 * row + 4), quad (16 * row + 8), quad (16 * row + 12)⟩
  ⟨grid 0, grid 1, grid 2, grid 3, grid 4, grid 5, grid 6, grid 7⟩

def zero : Block :=
  ofWords #[]

/-- The block read from 1024 bytes. -/
def ofOctets (octets : Octets) : Block :=
  ofWords (wordsOf octets).toArray

def toList (block : Block) : List UInt64 :=
  block.g0.toList ++ block.g1.toList ++ block.g2.toList ++ block.g3.toList ++
    block.g4.toList ++ block.g5.toList ++ block.g6.toList ++ block.g7.toList

def toOctets (block : Block) : Octets :=
  block.toList.flatMap wordOctets

/-- Addition with twice the product of the low halves. -/
@[inline] def blend (left right : UInt64) : UInt64 :=
  left + right + 2 * (left &&& 0xffffffff) * (right &&& 0xffffffff)

@[inline] def mix (q : Quad) : Quad :=
  let a := blend q.w0 q.w1
  let d := rotateRight (q.w3 ^^^ a) 32
  let c := blend q.w2 d
  let b := rotateRight (q.w1 ^^^ c) 24
  let a := blend a b
  let d := rotateRight (d ^^^ a) 16
  let c := blend c d
  let b := rotateRight (b ^^^ c) 63
  ⟨a, b, c, d⟩

/-- Mix the columns, then the diagonals, of sixteen words. -/
@[noinline] def permute (grid : Grid) : Grid :=
  (grid.mixColumns mix mix mix mix).mixDiagonals mix mix mix mix

/-- The sixteen words that stand in the first half of the same quadruple of every row. -/
@[inline] def leftColumn (pick : Grid → Quad) (block : Block) : Grid :=
  ⟨⟨(pick block.g0).w0, (pick block.g0).w1, (pick block.g1).w0, (pick block.g1).w1⟩,
    ⟨(pick block.g2).w0, (pick block.g2).w1, (pick block.g3).w0, (pick block.g3).w1⟩,
    ⟨(pick block.g4).w0, (pick block.g4).w1, (pick block.g5).w0, (pick block.g5).w1⟩,
    ⟨(pick block.g6).w0, (pick block.g6).w1, (pick block.g7).w0, (pick block.g7).w1⟩⟩

/-- The sixteen words that stand in the second half of the same quadruple of every row. -/
@[inline] def rightColumn (pick : Grid → Quad) (block : Block) : Grid :=
  ⟨⟨(pick block.g0).w2, (pick block.g0).w3, (pick block.g1).w2, (pick block.g1).w3⟩,
    ⟨(pick block.g2).w2, (pick block.g2).w3, (pick block.g3).w2, (pick block.g3).w3⟩,
    ⟨(pick block.g4).w2, (pick block.g4).w3, (pick block.g5).w2, (pick block.g5).w3⟩,
    ⟨(pick block.g6).w2, (pick block.g6).w3, (pick block.g7).w2, (pick block.g7).w3⟩⟩

/-- The first half of one quadruple in each of two neighbouring rows, joined across columns. -/
@[inline] def seam (pick : Grid → Quad) (left right : Grid) : Quad × Quad :=
  (⟨(pick left).w0, (pick left).w1, (pick right).w0, (pick right).w1⟩,
    ⟨(pick left).w2, (pick left).w3, (pick right).w2, (pick right).w3⟩)

/-- The block whose eight columns, two words wide, are the given grids. -/
def ofColumns (c0 c1 c2 c3 c4 c5 c6 c7 : Grid) : Block :=
  let rows (pick : Grid → Quad) : Grid × Grid :=
    let (a, b) := seam pick c0 c1
    let (c, d) := seam pick c2 c3
    let (e, f) := seam pick c4 c5
    let (g, h) := seam pick c6 c7
    (⟨a, c, e, g⟩, ⟨b, d, f, h⟩)
  let (g0, g1) := rows Grid.r0
  let (g2, g3) := rows Grid.r1
  let (g4, g5) := rows Grid.r2
  let (g6, g7) := rows Grid.r3
  ⟨g0, g1, g2, g3, g4, g5, g6, g7⟩

def permuteRows (block : Block) : Block :=
  ⟨permute block.g0, permute block.g1, permute block.g2, permute block.g3,
    permute block.g4, permute block.g5, permute block.g6, permute block.g7⟩

def permuteColumns (block : Block) : Block :=
  ofColumns (permute (block.leftColumn Grid.r0)) (permute (block.rightColumn Grid.r0))
    (permute (block.leftColumn Grid.r1)) (permute (block.rightColumn Grid.r1))
    (permute (block.leftColumn Grid.r2)) (permute (block.rightColumn Grid.r2))
    (permute (block.leftColumn Grid.r3)) (permute (block.rightColumn Grid.r3))

/-- The compression of two blocks into one. -/
def compress (left right : Block) : Block :=
  let joined := left.xor right
  joined.permuteRows.permuteColumns.xor joined

end Block

/-- A place in the filling order: pass, slice (a quarter of every lane), lane, and the index of
the block within its segment. -/
structure Place where
  pass : Nat
  slice : Nat
  lane : Nat
  index : Nat
  deriving DecidableEq, Repr

/-- Blocks in a segment, the part of a lane that lies in one slice. -/
def Costs.segmentLength (costs : Costs) : Nat :=
  costs.memory / (4 * costs.lanes)

def Costs.laneLength (costs : Costs) : Nat :=
  4 * costs.segmentLength

def Costs.blockCount (costs : Costs) : Nat :=
  costs.lanes * costs.laneLength

/-- The pseudo-random words for a run of 128 indices of a segment, made without the password. -/
def addressBlock (costs : Costs) (place : Place) : Block :=
  let request := Block.ofWords
    #[UInt64.ofNat place.pass, UInt64.ofNat place.lane, UInt64.ofNat place.slice,
      UInt64.ofNat costs.blockCount, UInt64.ofNat costs.passes, 2,
      UInt64.ofNat (place.index / 128 + 1)]
  Block.zero.compress (Block.zero.compress request)

/-- How many blocks of the chosen lane may be combined at this place. -/
def Costs.windowSize (costs : Costs) (place : Place) (sameLane : Bool) : Nat :=
  let finished :=
    if place.pass = 0 then place.slice * costs.segmentLength
    else costs.laneLength - costs.segmentLength
  if sameLane then finished + place.index - 1
  else if place.index = 0 then finished - 1
  else finished

/-- The position in the matrix of the block to combine at this place, from a pseudo-random word.
The low half chooses the block, recent ones more often; the high half chooses the lane. -/
def referencePosition (costs : Costs) (place : Place) (choice : UInt64) : Nat :=
  let lane :=
    if place.pass = 0 ∧ place.slice = 0 then place.lane
    else (choice >>> 32).toNat % costs.lanes
  let window := costs.windowSize place (lane == place.lane)
  let low := (choice &&& 0xffffffff).toNat
  let back := window * (low * low / 4294967296) / 4294967296
  let first :=
    if place.pass = 0 ∨ place.slice = 3 then 0 else (place.slice + 1) * costs.segmentLength
  lane * costs.laneLength + (first + (window - 1 - back)) % costs.laneLength

/-- The matrix, lane after lane. -/
abbrev Matrix := Array Block

/-- Fill the block at one place. `addresses` holds the words for this run of 128 indices where
the choice must not depend on the password. -/
def fillPlace (costs : Costs) (matrix : Matrix) (place : Place) (addresses : Array UInt64) :
    Matrix :=
  let column := place.slice * costs.segmentLength + place.index
  let position := place.lane * costs.laneLength + column
  let previous :=
    matrix.getD (if column = 0 then position + costs.laneLength - 1 else position - 1) .zero
  let choice :=
    if place.pass = 0 ∧ place.slice < 2 then addresses.getD (place.index % 128) 0
    else previous.g0.r0.w0
  let reference := matrix.getD (referencePosition costs place choice) .zero
  let fresh := previous.compress reference
  let fresh := if place.pass = 0 then fresh else fresh.xor (matrix.getD position .zero)
  matrix.setIfInBounds position fresh

/-- Fill the next `count` blocks of a segment. -/
def fillSegment (costs : Costs) : Nat → Place → Array UInt64 → Matrix → Matrix
  | 0, _, _, matrix => matrix
  | count + 1, place, addresses, matrix =>
      let addresses :=
        if place.pass = 0 ∧ place.slice < 2 ∧ (addresses.isEmpty ∨ place.index % 128 = 0) then
          (addressBlock costs place).toList.toArray
        else addresses
      let matrix := fillPlace costs matrix place addresses
      fillSegment costs count { place with index := place.index + 1 } addresses matrix

/-- Fill one slice of one pass, lane by lane. The first two blocks of a lane are already there
in the first slice of the first pass. -/
def fillSlice (costs : Costs) (pass : Nat) (matrix : Matrix) (slice : Nat) : Matrix :=
  let first := if pass = 0 ∧ slice = 0 then 2 else 0
  (List.range costs.lanes).foldl
    (fun matrix lane =>
      fillSegment costs (costs.segmentLength - first) ⟨pass, slice, lane, first⟩ #[] matrix)
    matrix

/-- The 64 bytes that stand for all inputs. -/
def seed (costs : Costs) (password salt : Octets) : Octets :=
  Blake2b.digest 64
    (Octets.littleEndian32 costs.lanes ++ Octets.littleEndian32 costs.keyLength ++
      Octets.littleEndian32 costs.memory ++ Octets.littleEndian32 costs.passes ++
      Octets.littleEndian32 0x13 ++ Octets.littleEndian32 2 ++
      Octets.littleEndian32 password.length ++ password ++
      Octets.littleEndian32 salt.length ++ salt ++
      Octets.littleEndian32 0 ++ Octets.littleEndian32 0)

/-- The matrix with the first two blocks of every lane. -/
def openingMatrix (costs : Costs) (seed : Octets) : Matrix :=
  let opening (lane column : Nat) : Block :=
    Block.ofOctets (longHash 1024
      (seed ++ Octets.littleEndian32 column ++ Octets.littleEndian32 lane))
  (List.range costs.lanes).foldl
    (fun matrix lane =>
      (matrix.setIfInBounds (lane * costs.laneLength) (opening lane 0)).setIfInBounds
        (lane * costs.laneLength + 1) (opening lane 1))
    (Array.replicate costs.blockCount .zero)

/-- The matrix after all passes. -/
def filledMatrix (costs : Costs) (password salt : Octets) : Matrix :=
  (List.range costs.passes).foldl
    (fun matrix pass => (List.range 4).foldl (fillSlice costs pass) matrix)
    (openingMatrix costs (seed costs password salt))

def key (costs : Costs) (password salt : Octets) : Octets :=
  let matrix := filledMatrix costs password salt
  let last := (List.range costs.lanes).foldl
    (fun block lane => block.xor (matrix.getD ((lane + 1) * costs.laneLength - 1) .zero))
    Block.zero
  longHash costs.keyLength last.toOctets

theorem length_key (costs : Costs) (password salt : Octets) :
    (key costs password salt).length = costs.keyLength :=
  length_longHash _ _

end SessionGate.Hash.Argon2id
