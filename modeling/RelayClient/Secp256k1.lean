import RelayClient.Ed25519

/-!
# Compressed points of secp256k1
-/
namespace RelayClient.Secp256k1

def fieldSize : Nat := (1 <<< 256) - (1 <<< 32) - 977

/-- The right-hand side of the curve equation `y² = x³ + 7`. -/
def cubic (x : Nat) : Nat := (x * x * x + 7) % fieldSize

/-- Whether a number is a square in the field; its size is three modulo four, so a root is a power. -/
def isSquare (n : Nat) : Bool :=
  let root := Ed25519.powMod fieldSize n 256 ((fieldSize + 1) / 4)
  root * root % fieldSize == n % fieldSize

/-- A parity mark and the first coordinate of a point of the curve. -/
def isCompressedPoint : Bytes → Bool
  | mark :: rest =>
    let x := Sha2.bigEndianValue rest
    (mark == 2 || mark == 3) && rest.length == 32 && x < fieldSize && isSquare (cubic x)
  | [] => false

end RelayClient.Secp256k1
