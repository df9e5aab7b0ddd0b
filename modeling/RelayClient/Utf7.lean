import RelayClient.ReadText

/-!
# UTF-7

ASCII stands for itself. A plus sign opens a section of base64 digits, which spell UTF-16 units, and
any other character closes it; a minus sign that does so is left out. What spoils a section costs
one malformed piece, the character that closes it included.
-/
namespace RelayClient.Utf7

def digit? (b : UInt8) : Option Nat :=
  let n := b.toNat
  if 0x41 ≤ n && n ≤ 0x5A then some (n - 0x41)
  else if 0x61 ≤ n && n ≤ 0x7A then some (n - 0x61 + 26)
  else if 0x30 ≤ n && n ≤ 0x39 then some (n - 0x30 + 52)
  else if n = 0x2B then some 62
  else if n = 0x2F then some 63
  else none

/-- A section: the bits that make no unit yet, how many there are, and a unit that awaits its second. -/
structure Section where
  bits : Nat := 0
  count : Nat := 0
  high : Option CodePoint := none

namespace Section

/-- The characters that come out with another unit. -/
def unit (s : Section) (n : Nat) : ReadText × Section :=
  let c := CodePoint.ofNat n
  match s.high with
  | some h =>
    if c.isLowSurrogate then ([some (h.joinSurrogates c)], { s with high := none })
    else if c.isHighSurrogate then ([some h], { s with high := some c })
    else ([some h, some c], { s with high := none })
  | none => if c.isHighSurrogate then ([], { s with high := some c }) else ([some c], s)

def push (s : Section) (digit : Nat) : ReadText × Section :=
  let bits := 64 * s.bits + digit
  let count := s.count + 6
  if count < 16 then ([], { s with bits := bits, count := count })
  else unit ⟨bits % (1 <<< (count - 16)), count - 16, s.high⟩ (bits >>> (count - 16))

/-- What is left over has to be a few zero bits. -/
def isPadded (s : Section) : Bool := s.count < 6 && s.bits = 0

end Section

inductive Place where
  | outside
  | afterPlus
  | inside (s : Section)

def single (b : UInt8) : Option CodePoint := if b < 0x80 then some (CodePoint.ofNat b.toNat) else none

def step (place : Place) (b : UInt8) : ReadText × Place :=
  let within (s : Section) (d : Nat) : ReadText × Place :=
    let (t, s) := s.push d
    (t, .inside s)
  match place, digit? b with
  | .outside, _ => if b = 0x2B then ([], .afterPlus) else ([single b], .outside)
  | .afterPlus, some d => within {} d
  | .afterPlus, none => ([if b = 0x2D then some '+' else none], .outside)
  | .inside s, some d => within s d
  | .inside s, none =>
    if !s.isPadded then ([none], .outside)
    else
      let lone := if b < 0x80 then s.high.toList.map some else []
      (lone ++ (if b = 0x2D then [] else [single b]), .outside)

def atEnd : Place → ReadText
  | .inside s => if s.isPadded && s.high.isNone then [] else [none]
  | _ => []

def items : Place → Bytes → ReadText
  | p, [] => atEnd p
  | p, b :: r =>
    let (t, p) := step p b
    t ++ items p r

end RelayClient.Utf7
