import RelayClient.Value

/-!
# Hexadecimal text
-/
namespace RelayClient.Hex

/-- The lower-case digit of a number below sixteen. -/
def digit (n : Nat) : Char := if n < 10 then Char.ofNat (0x30 + n) else Char.ofNat (0x57 + n)

def digitValue? (c : CodePoint) : Option Nat :=
  if 0x30 ≤ c.val ∧ c.val ≤ 0x39 then some (c.val - 0x30)
  else if 0x61 ≤ c.val ∧ c.val ≤ 0x66 then some (c.val - 0x57)
  else if 0x41 ≤ c.val ∧ c.val ≤ 0x46 then some (c.val - 0x37)
  else none

def encode : Bytes → Text
  | [] => []
  | b :: r => digit (b.toNat / 16) :: digit (b.toNat % 16) :: encode r

/-- Reads pairs of digits of either case; there are no signs, blanks or separators. -/
def decode? : Text → Option Bytes
  | [] => some []
  | [_] => none
  | h :: l :: r => do
    let h ← digitValue? h
    let l ← digitValue? l
    let bytes ← decode? r
    return UInt8.ofNat (16 * h + l) :: bytes

theorem digitValue?_digit : ∀ n < 16, digitValue? (digit n) = some n := by decide

@[simp] theorem decode?_encode (b : Bytes) : decode? (encode b) = some b := by
  induction b with
  | nil => rfl
  | cons x r ih =>
    have hx : x.toNat < 256 := x.toNat_lt
    have halves : UInt8.ofNat (16 * (x.toNat / 16) + x.toNat % 16) = x := by
      rw [show 16 * (x.toNat / 16) + x.toNat % 16 = x.toNat by omega, UInt8.ofNat_toNat]
    rw [encode, decode?, digitValue?_digit _ (show x.toNat / 16 < 16 by omega),
      digitValue?_digit _ (show x.toNat % 16 < 16 by omega), ih]
    simpa using halves

@[simp] theorem length_encode (b : Bytes) : (encode b).length = 2 * b.length := by
  induction b with
  | nil => rfl
  | cons x r ih => simp only [encode, List.length_cons, ih]; omega

/-- A number in exactly `width` digits, its high digits cut off when they do not fit. -/
def fixed (width n : Nat) : Text :=
  match width with
  | 0 => []
  | w + 1 => fixed w (n / 16) ++ [(digit (n % 16) : CodePoint)]

end RelayClient.Hex
