import RelayClient.ReadText
import RelayClient.Undecodable

/-!
# Punycode

ASCII characters come first, up to the last hyphen. The digits behind it spell, in a base whose
thresholds adapt, how far on the next character and its place are. Case does not matter.
-/
namespace RelayClient.Punycode

def digit? (b : UInt8) : Option Nat :=
  let n := b.toNat
  if 0x41 ≤ n && n ≤ 0x5A then some (n - 0x41)
  else if 0x61 ≤ n && n ≤ 0x7A then some (n - 0x61)
  else if 0x30 ≤ n && n ≤ 0x39 then some (n - 0x30 + 26)
  else none

/-- The digits below it end a number; `place` counts the digits before. -/
def threshold (bias place : Nat) : Nat := min 26 (max 1 (36 * (place + 1) - bias))

def number? (bias : Nat) (weight value place : Nat) : Bytes → Option (Nat × Bytes)
  | [] => none
  | b :: r =>
    match digit? b with
    | none => none
    | some d =>
      let t := threshold bias place
      let value := value + d * weight
      if d < t then some (value, r) else number? bias (weight * (36 - t)) value (place + 1) r

def divisions : Nat → Nat → Nat → Nat × Nat
  | 0, delta, n => (delta, n)
  | fuel + 1, delta, n => if delta > 455 then divisions fuel (delta / 35) (n + 36) else (delta, n)

/-- The bias after a number, of which the first counts less. -/
def adapt (delta size : Nat) (first : Bool) : Nat :=
  let delta := if first then delta / 700 else delta / 2
  let delta := delta + delta / size
  let (delta, n) := divisions delta delta 0
  n + 36 * delta / (delta + 38)

/-- What has been read, where the next character cannot come before, and the bias. -/
structure State where
  text : ReadText
  last : Nat := 0x80
  next : Nat := 0
  bias : Nat := 72

/-- Inserts the characters that the digits spell. Bad digits end the reading; a character beyond all
code points becomes a question mark. The flag says whether all went well. -/
def insertAll (first : Bool) : Nat → State → Bytes → ReadText × Bool
  | 0, s, _ => (s.text, true)
  | _, s, [] => (s.text, true)
  | fuel + 1, s, digits =>
    match number? s.bias 1 0 0 digits with
    | none => (s.text, false)
    | some (delta, rest) =>
      let size := s.text.length + 1
      let position := s.next + delta
      let reached := s.last + position / size
      let fits := reached < 0x110000
      let char := if fits then reached else '?'.toNat
      let place := position % size
      let text := s.text.take place ++ some (CodePoint.ofNat char) :: s.text.drop place
      let (all, fine) := insertAll false fuel ⟨text, char, place + 1, adapt delta size first⟩ rest
      (all, fits && fine)

def split (bytes : Bytes) : Bytes × Bytes :=
  match bytes.reverse.span (· != 0x2D) with
  | (digits, _ :: base) => (base.reverse, digits.reverse)
  | (digits, []) => ([], digits.reverse)

def read (bytes : Bytes) : Except Undecodable (ReadText × Bool) :=
  let (base, digits) := split bytes
  match digits.findIdx? (· ≥ 0x80) with
  | some i => .error (.notAscii (digits.getD i 0) i)
  | none =>
    let text : ReadText := base.map fun b => if b < 0x80 then some (CodePoint.ofNat b.toNat) else none
    .ok (insertAll true digits.length { text := text } digits)

end RelayClient.Punycode
