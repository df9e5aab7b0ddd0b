import RelayClient.Hangul
import RelayClient.KsX1001
import RelayClient.MultiByte

/-!
# Korean character sets
-/
namespace RelayClient.Korean

def cell? (a b : UInt8) : Option CodePoint :=
  (ksX1001.cell? (a.toNat - 0xA0) (b.toNat - 0xA0)).map CodePoint.ofChar

/-- The letter that a byte of the letter row stands for. -/
def letter? (b : UInt8) : Option Char := ksX1001.cell? 4 (b.toNat - 0xA0)

/-- A syllable spelled by a filler and three letters, of which the last may be a filler. -/
def spelled? : Bytes → Option CodePoint
  | [0xA4, i, 0xA4, v, 0xA4, f] => do
    let initial ← Hangul.initials.toList.findIdx? (some · == letter? i)
    let vowel ← Hangul.vowels.toList.findIdx? (some · == letter? v)
    let final ← if f = 0xD4 then some 0 else
      (Hangul.finals.toList.findIdx? (some · == letter? f)).map (· + 1)
    return Hangul.syllable initial vowel final
  | _ => none

def euc : Bytes → Ahead Unit
  | [] => .unfinished
  | a :: r =>
    if a < 0x80 then .single a
    else match a, r with
      | _, [] => .unfinished
      | 0xA4, 0xD4 :: r =>
        if r.length < 6 then .unfinished else .ofCell 8 (spelled? (r.take 6))
      | a, b :: _ => .ofCell 2 (cell? a b)

/-- The syllables that KS X 1001 lacks. -/
def otherSyllables : Array Char := ksX1001.missing 0xAC00 0xD7A3

def otherColumn? (b : UInt8) : Option Nat :=
  let n := b.toNat
  if 0x41 ≤ n ∧ n ≤ 0x5A then some (n - 0x41)
  else if 0x61 ≤ n ∧ n ≤ 0x7A then some (n - 0x61 + 26)
  else if 0x81 ≤ n ∧ n ≤ 0xFE then some (n - 0x81 + 52)
  else none

/-- They fill the rows up to A0 and then the first 84 columns of the rows from A1 on. -/
def otherSyllable? (a b : UInt8) : Option CodePoint :=
  (otherColumn? b).bind fun column =>
    let lead := a.toNat
    let place :=
      if 0x81 ≤ lead ∧ lead ≤ 0xA0 then some (178 * (lead - 0x81) + column)
      else if 0xA1 ≤ lead ∧ column < 84 then some (178 * 32 + 84 * (lead - 0xA1) + column)
      else none
    (place.bind (otherSyllables[·]?)).map CodePoint.ofChar

def codePage949 : Bytes → Ahead Unit
  | [] => .unfinished
  | a :: r =>
    if a < 0x80 then .single a
    else match r with
      | [] => .unfinished
      | b :: _ => .ofCell 2 ((cell? a b).or (otherSyllable? a b))

/-- What five bits stand for: one of the letters in their order, or the filler in its place. -/
inductive Slot where
  | letter (n : Nat)
  | filler

namespace Slot

def initial? (n : Nat) : Option Slot :=
  if n = 1 then some .filler else if 2 ≤ n ∧ n ≤ 20 then some (.letter (n - 2)) else none

/-- Every eighth pair of numbers is left out. -/
def vowel? (n : Nat) : Option Slot :=
  if n = 2 then some .filler
  else if n < 3 ∨ 29 < n ∨ n % 8 < 2 then none
  else some (.letter (n - 3 - 2 * (n / 8)))

def final? (n : Nat) : Option Slot :=
  if n = 1 then some .filler
  else if 2 ≤ n ∧ n ≤ 17 then some (.letter (n - 2))
  else if 19 ≤ n ∧ n ≤ 29 then some (.letter (n - 3))
  else none

end Slot

/-- A syllable, a single letter, or a blank. -/
def ofSlots : Slot → Slot → Slot → Option CodePoint
  | .letter i, .letter v, .filler => some (Hangul.syllable i v 0)
  | .letter i, .letter v, .letter f => some (Hangul.syllable i v (f + 1))
  | .letter i, .filler, .filler => (Hangul.initials.toList[i]?).map CodePoint.ofChar
  | .filler, .letter v, .filler => (Hangul.vowels.toList[v]?).map CodePoint.ofChar
  | .filler, .filler, .letter f => (Hangul.finals.toList[f]?).map CodePoint.ofChar
  | .filler, .filler, .filler => some (CodePoint.ofNat 0x3000)
  | _, _, _ => none

/-- Signs and ideographs, two rows of KS X 1001 to a lead byte; the rows of letters and syllables
are left out. -/
def johabCell? (lead trail : Nat) : Option CodePoint :=
  if lead = 0xDF ∨ 0xF9 < lead ∨ lead < 0xD9 ∨ trail < 0x31 ∨ (0x7F ≤ trail ∧ trail < 0x91) ∨ trail = 0xFF
      ∨ (lead = 0xDA ∧ 0xA1 ≤ trail ∧ trail ≤ 0xD3) then none
  else
    let row := if lead < 0xE0 then 2 * (lead - 0xD9) else 2 * lead - 0x197
    let column := if trail < 0x91 then trail - 0x31 else trail - 0x43
    (ksX1001.cell? (row + column / 94 + 1) (column % 94 + 1)).map CodePoint.ofChar

def johab : Bytes → Ahead Unit
  | [] => .unfinished
  | a :: r =>
    if a < 0x80 then .single a
    else match r with
      | [] => .unfinished
      | b :: _ =>
        if a < 0xD8 then
          let bits := 0x100 * a.toNat + b.toNat
          .ofCell 2 (do
            ofSlots (← Slot.initial? (bits / 1024 % 32)) (← Slot.vowel? (bits / 32 % 32))
              (← Slot.final? (bits % 32)))
        else .ofCell 2 (johabCell? a.toNat b.toNat)

end RelayClient.Korean
