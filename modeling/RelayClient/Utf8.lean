import RelayClient.ReadText

/-!
# UTF-8

A decoder reads one byte at a time. Its output has an item for every code point and an empty item
for every maximal piece of bytes that begins no code point, so refusing and replacing malformed
input are two readings of one output.
-/
namespace RelayClient.Utf8

/-- The bytes of one code point; surrogates are laid out like any other three-byte code point. -/
def encodeOne (c : CodePoint) : Bytes :=
  let n := c.val
  let continuation (m : Nat) : UInt8 := UInt8.ofNat (0x80 + m % 64)
  if n < 0x80 then [UInt8.ofNat n]
  else if n < 0x800 then [UInt8.ofNat (0xC0 + n / 64), continuation n]
  else if n < 0x10000 then [UInt8.ofNat (0xE0 + n / 4096), continuation (n / 64), continuation n]
  else [UInt8.ofNat (0xF0 + n / 262144), continuation (n / 4096), continuation (n / 64),
    continuation n]

def encode? : Text → Option Bytes
  | [] => some []
  | c :: r => if c.isSurrogate then none else (encode? r).map (encodeOne c ++ ·)

theorem encode?_eq_none_iff {t : Text} : encode? t = none ↔ t.hasSurrogate := by
  induction t with
  | nil => simp [encode?, Text.hasSurrogate]
  | cons c r ih =>
    by_cases h : c.isSurrogate
    · simp [encode?, Text.hasSurrogate, h]
    · simp only [Text.hasSurrogate] at ih
      simp [encode?, Text.hasSurrogate, h, ih]

theorem encode?_of_intact {t : Text} (h : t.hasSurrogate = false) :
    encode? t = some (t.flatMap encodeOne) := by
  induction t with
  | nil => rfl
  | cons c r ih =>
    simp only [Text.hasSurrogate, List.any_cons, Bool.or_eq_false_iff] at h
    simp [encode?, h.1, ih h.2]

theorem encode?_append (s t : Text) :
    encode? (s ++ t) = (encode? s).bind fun a => (encode? t).map (a ++ ·) := by
  induction s with
  | nil => cases h : encode? t <;> simp [encode?, h]
  | cons c r ih =>
    by_cases h : c.isSurrogate
    · simp [encode?, h]
    · cases hr : encode? r <;> cases ht : encode? t <;> simp [encode?, h, ih, hr, ht]

/-- A code point of which some bytes have been read: its bits so far, how many bytes are missing
and the range of the next one. -/
structure Partial where
  bits : Nat
  missing : Nat
  lowest : Nat
  highest : Nat

/-- What a byte does where a code point may begin. -/
inductive Lead where
  | whole (c : CodePoint)
  | opens (p : Partial)
  | invalid

def lead (surrogates : Bool) (b : UInt8) : Lead :=
  let n := b.toNat
  if n < 0x80 then .whole (CodePoint.ofNat n)
  else if n < 0xC2 then .invalid
  else if n < 0xE0 then .opens ⟨n - 0xC0, 1, 0x80, 0xBF⟩
  else if n = 0xE0 then .opens ⟨0, 2, 0xA0, 0xBF⟩
  else if n = 0xED && !surrogates then .opens ⟨0xD, 2, 0x80, 0x9F⟩
  else if n < 0xF0 then .opens ⟨n - 0xE0, 2, 0x80, 0xBF⟩
  else if n = 0xF0 then .opens ⟨0, 3, 0x90, 0xBF⟩
  else if n < 0xF4 then .opens ⟨n - 0xF0, 3, 0x80, 0xBF⟩
  else if n = 0xF4 then .opens ⟨4, 3, 0x80, 0x8F⟩
  else .invalid

/-- The items of a byte string, read from the given state on. -/
def items (surrogates : Bool) : Option Partial → Bytes → ReadText
  | none, [] => []
  | some _, [] => [none]
  | none, b :: r => match lead surrogates b with
    | .whole c => some c :: items surrogates none r
    | .opens p => items surrogates (some p) r
    | .invalid => none :: items surrogates none r
  | some p, b :: r =>
    if p.lowest ≤ b.toNat ∧ b.toNat ≤ p.highest then
      let bits := p.bits * 64 + (b.toNat - 0x80)
      if p.missing = 1 then some (CodePoint.ofNat bits) :: items surrogates none r
      else items surrogates (some ⟨bits, p.missing - 1, 0x80, 0xBF⟩) r
    else match lead surrogates b with
      | .whole c => none :: some c :: items surrogates none r
      | .opens p => none :: items surrogates (some p) r
      | .invalid => none :: none :: items surrogates none r

end RelayClient.Utf8
