import RelayClient.Sha2

/-!
# SHA3-256

A sponge over twenty-five lanes of 64 bits; lane `x + 5 y` stands in column `x` and row `y`.
-/
namespace RelayClient.Sha3

abbrev State := Vector UInt64 25

def roundConstants : List UInt64 :=
  [0x0000000000000001, 0x0000000000008082, 0x800000000000808A, 0x8000000080008000,
    0x000000000000808B, 0x0000000080000001, 0x8000000080008081, 0x8000000000008009,
    0x000000000000008A, 0x0000000000000088, 0x0000000080008009, 0x000000008000000A,
    0x000000008000808B, 0x800000000000008B, 0x8000000000008089, 0x8000000000008003,
    0x8000000000008002, 0x8000000000000080, 0x000000000000800A, 0x800000008000000A,
    0x8000000080008081, 0x8000000000008080, 0x0000000080000001, 0x8000000080008008]

def offsets : Vector UInt64 25 := #v[
  0, 1, 62, 28, 27, 36, 44, 6, 55, 20, 3, 10, 43, 25, 39, 41, 45, 15, 21, 8, 18, 2, 61, 56, 14]

def rotateLeft (x n : UInt64) : UInt64 := if n = 0 then x else x <<< n ||| x >>> (64 - n)

/-- The lane at a column and row taken modulo five. -/
def lane (s : State) (x y : Nat) : UInt64 :=
  s[x % 5 + 5 * (y % 5)]

def parity (s : State) (x : Nat) : UInt64 :=
  lane s x 0 ^^^ lane s x 1 ^^^ lane s x 2 ^^^ lane s x 3 ^^^ lane s x 4

/-- Adds to each lane the parities of two neighbouring columns. -/
def theta (s : State) : State :=
  let columns : Vector UInt64 5 := .ofFn fun x => parity s x
  let column (x : Nat) : UInt64 := columns[x % 5]
  .ofFn fun i => s[i] ^^^ column (i + 4) ^^^ rotateLeft (column (i + 1)) 1

/-- Turns the lanes and moves each to its new place. -/
def rhoPi (s : State) : State :=
  .ofFn fun i =>
    let source := (i.val % 5 + 3 * (i.val / 5)) % 5 + 5 * (i.val % 5)
    rotateLeft (s[source]) (offsets[source])

/-- Mixes each lane with the two beside it in its row. -/
def chi (s : State) : State :=
  .ofFn fun i =>
    let x := i.val % 5
    let y := i.val / 5
    s[i] ^^^ (~~~ lane s (x + 1) y &&& lane s (x + 2) y)

def iota (s : State) (constant : UInt64) : State := s.set 0 (s[0] ^^^ constant)

def permute (s : State) : State :=
  roundConstants.foldl (fun s c => iota (chi (rhoPi (theta s))) c) s

/-- How many bytes of a message each step takes in. -/
def rate : Nat := 136

/-- A message with its end mark and zeros; the last byte of the last block has its highest bit set. -/
def padded (message : Bytes) : Bytes :=
  let gap := rate - message.length % rate
  if gap = 1 then message ++ [0x86]
  else message ++ 0x06 :: List.replicate (gap - 2) 0 ++ [0x80]

def littleEndianValue (bytes : Bytes) : Nat := Sha2.bigEndianValue bytes.reverse

/-- The lanes that a block fills; those behind it stay zero. -/
def lanes (block : Bytes) : State :=
  let words := ((Sha2.piecesOf 8 block).map fun b => UInt64.ofNat (littleEndianValue b)).toArray
  .ofFn fun i => words.getD i 0

def absorb (s : State) (block : Bytes) : State :=
  let block := lanes block
  permute (.ofFn fun i => s[i] ^^^ block[i])

def hash (message : Bytes) : Bytes :=
  let final := (Sha2.piecesOf rate (padded message)).foldl absorb (.replicate 25 0)
  (final.toList.take 4).flatMap fun w => (Sha2.bigEndian 8 w.toNat).reverse

def hashChunks (chunks : List Bytes) : Bytes := hash chunks.flatten

end RelayClient.Sha3
