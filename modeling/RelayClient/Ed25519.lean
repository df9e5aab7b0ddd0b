import RelayClient.Sha2

/-!
# Ed25519 signatures

Points of the twisted Edwards curve `-x² + y² = 1 + d x² y²` over the field of `2²⁵⁵ - 19` elements,
kept in extended coordinates. Verification does not clear the cofactor and compares the encoding of
the commitment byte by byte; points of small order take no part in it.
-/
namespace RelayClient.Ed25519

def fieldSize : Nat := (1 <<< 255) - 19

def groupOrder : Nat := (1 <<< 252) + 27742317777372353535851937790883648493

/-- `base ^ exponent` modulo `m`, the exponent having at most the given number of bits. -/
def powMod (m base : Nat) : Nat → Nat → Nat
  | 0, _ => 1 % m
  | bits + 1, exponent =>
    let root := powMod m base bits (exponent / 2)
    let square := root * root % m
    if exponent % 2 = 1 then square * base % m else square

def add (a b : Nat) : Nat := (a + b) % fieldSize

def sub (a b : Nat) : Nat := (a + (fieldSize - b % fieldSize)) % fieldSize

def mul (a b : Nat) : Nat := a * b % fieldSize

def pow (a exponent : Nat) : Nat := powMod fieldSize a 255 exponent

def inverse (a : Nat) : Nat := pow a (fieldSize - 2)

/-- The curve constant `d = -121665 / 121666`. -/
def curveConstant : Nat :=
  37095705934669439343138083508754565189542113879843219016388785533085940283555

def rootOfMinusOne : Nat :=
  19681161376707505956807079304988542015446066515923890162744021073123829784752

/-- A point in extended coordinates: `x = X / Z`, `y = Y / Z` and `T = X Y / Z`. -/
structure Point where
  X : Nat
  Y : Nat
  Z : Nat
  T : Nat
  deriving DecidableEq

namespace Point

def zero : Point := ⟨0, 1, 1, 0⟩

def base : Point :=
  let x := 15112221349535400772501151409588531511454012693041857206046113283949847762202
  let y := 46316835694926478169428394003475163141307993866256225615783033603165251855960
  ⟨x, y, 1, mul x y⟩

/-- The unified addition law, which also doubles. -/
def sum (p q : Point) : Point :=
  let a := mul (sub p.Y p.X) (sub q.Y q.X)
  let b := mul (add p.Y p.X) (add q.Y q.X)
  let c := mul (mul (2 * p.T) curveConstant) q.T
  let d := mul (2 * p.Z) q.Z
  let e := sub b a
  let f := sub d c
  let g := add d c
  let h := add b a
  ⟨mul e f, mul g h, mul f g, mul e h⟩

def negate (p : Point) : Point := ⟨sub 0 p.X, p.Y, p.Z, sub 0 p.T⟩

/-- The multiple of a point by a number of at most the given count of bits. -/
def times (p : Point) : Nat → Nat → Point
  | 0, _ => zero
  | bits + 1, n =>
    let half := times p bits (n / 2)
    let double := half.sum half
    if n % 2 = 1 then double.sum p else double

/-- Whether eight times the point is zero. -/
def hasSmallOrder (p : Point) : Bool :=
  let q := p.times 4 8
  q.X % fieldSize == 0 && sub q.Y q.Z == 0

end Point

def littleEndian (width n : Nat) : Bytes := (Sha2.bigEndian width n).reverse

def littleEndianValue (bytes : Bytes) : Nat := Sha2.bigEndianValue bytes.reverse

/-- The bytes of a point: its second coordinate, and the parity of the first in the highest bit. -/
def Point.encode (p : Point) : Bytes :=
  let z := inverse p.Z
  littleEndian 32 (mul p.Y z + (mul p.X z % 2) <<< 255)

/-- Whether the second coordinate is written as a number below the field size. -/
def isCanonical (bytes : Bytes) : Bool := littleEndianValue bytes % (1 <<< 255) < fieldSize

/-- A square root of `u / v`, if there is one. -/
def rootOfQuotient? (u v : Nat) : Option Nat :=
  let v3 := mul (mul v v) v
  let v7 := mul (mul v3 v3) v
  let r := mul (mul u v3) (pow (mul u v7) ((fieldSize - 5) / 8))
  let check := mul v (mul r r)
  if check = u % fieldSize then some r
  else if check = sub 0 u then some (mul r rootOfMinusOne)
  else none

/-- The point that 32 bytes encode. -/
def Point.decode? (bytes : Bytes) : Option Point :=
  let n := littleEndianValue bytes
  let y := n % (1 <<< 255) % fieldSize
  let y2 := mul y y
  (rootOfQuotient? (sub y2 1) (add (mul curveConstant y2) 1)).map fun x =>
    let x := if x % 2 = (n >>> 255) % 2 then x else sub 0 x
    ⟨x, y, 1, mul x y⟩

def expand (seed : Bytes) : Nat × Bytes :=
  let h := Sha2.sha512 seed
  let a := littleEndianValue (h.take 32)
  ((1 <<< 254) + a % (1 <<< 254) / 8 * 8, h.drop 32)

def publicKey (seed : Bytes) : Bytes := (Point.base.times 255 (expand seed).1).encode

def challenge (commitment key message : Bytes) : Nat :=
  littleEndianValue (Sha2.sha512 (commitment ++ key ++ message)) % groupOrder

def sign (seed message : Bytes) : Bytes :=
  let (a, key) := expand seed
  let r := littleEndianValue (Sha2.sha512 (key ++ message)) % groupOrder
  let commitment := (Point.base.times 253 r).encode
  let k := challenge commitment (publicKey seed) message
  commitment ++ littleEndian 32 ((r + k * a) % groupOrder)

/-- Whether a signature of 64 bytes is valid for a message under a key of 32 bytes. -/
def verify (key message signature : Bytes) : Bool :=
  let commitment := signature.take 32
  let s := littleEndianValue (signature.drop 32)
  if key.length = 32 ∧ signature.length = 64 ∧ s < groupOrder ∧ isCanonical key then
    match Point.decode? key with
    | none => false
    | some a =>
      let k := challenge commitment key message
      let r := (Point.base.times 253 s).sum (a.negate.times 253 k)
      !a.hasSmallOrder && !r.hasSmallOrder && r.encode == commitment
  else false

end RelayClient.Ed25519
