import RelayClient.ReadText

/-!
# UTF-16 and UTF-32

As for UTF-8, the output has an empty item for each malformed piece.
-/
namespace RelayClient

inductive ByteOrder where
  | littleEndian | bigEndian
  deriving DecidableEq

namespace Utf16

/-- Pairs of bytes as numbers, and whether a single byte is left over. -/
def units (order : ByteOrder) : Bytes → List Nat × Bool
  | [] => ([], false)
  | [_] => ([], true)
  | a :: b :: r =>
    let (us, odd) := units order r
    ((match order with
      | .littleEndian => a.toNat + 0x100 * b.toNat
      | .bigEndian => b.toNat + 0x100 * a.toNat) :: us, odd)

/-- Joins surrogate pairs. A lone surrogate is kept or malformed; what an odd byte leaves unfinished
is one malformed piece. -/
def pair (surrogates odd : Bool) : List Nat → ReadText
  | [] => if odd then [none] else []
  | [u] =>
    let c := CodePoint.ofNat u
    if !c.isSurrogate then some c :: (if odd then [none] else [])
    else if surrogates then some c :: (if odd then [none] else [])
    else if c.isHighSurrogate then [none]
    else none :: (if odd then [none] else [])
  | u :: v :: r =>
    let c := CodePoint.ofNat u
    let d := CodePoint.ofNat v
    if c.isHighSurrogate && d.isLowSurrogate then
      some (c.joinSurrogates d) :: pair surrogates odd r
    else (if c.isSurrogate && !surrogates then none else some c) :: pair surrogates odd (v :: r)

def items (surrogates : Bool) (order : ByteOrder) (bytes : Bytes) : ReadText :=
  let (us, odd) := units order bytes
  pair surrogates odd us

end Utf16

namespace Utf32

def items (surrogates : Bool) (order : ByteOrder) : Bytes → ReadText
  | [] => []
  | a :: b :: c :: d :: r =>
    let n := match order with
      | .littleEndian => a.toNat + 0x100 * (b.toNat + 0x100 * (c.toNat + 0x100 * d.toNat))
      | .bigEndian => d.toNat + 0x100 * (c.toNat + 0x100 * (b.toNat + 0x100 * a.toNat))
    let item : Option CodePoint :=
      if h : n < 0x110000 then
        if (CodePoint.mk n h).isSurrogate && !surrogates then none else some ⟨n, h⟩
      else none
    item :: items surrogates order r
  | _ => [none]

end Utf32
end RelayClient
