import RelayClient.IsoSets
import RelayClient.JapaneseSets
import RelayClient.KoreanSets
import RelayClient.ChineseSets

/-!
# Sets that change by escape sequences

An escape sequence puts a character set into one of three places. Bytes below 80 are read in the set
of the first place, behind a shift-out in that of the second, and a character behind a single shift
in that of the third.
-/
namespace RelayClient

/-- The character sets that can be put into a place. -/
inductive Graphic where
  | ascii
  | roman
  | kana
  | western
  | greek
  | jis
  | oldJis
  | supplement
  | firstPlane (e : JisX0213.Edition)
  | secondPlane
  | korean
  | chinese
  deriving DecidableEq

namespace Graphic

/-- The last byte of the escape sequence, and whether it says that characters have two bytes. -/
def mark : Graphic → Char × Bool
  | ascii => ('B', false)
  | roman => ('J', false)
  | kana => ('I', false)
  | western => ('A', false)
  | greek => ('F', false)
  | jis => ('B', true)
  | oldJis => ('@', true)
  | supplement => ('D', true)
  | firstPlane .first => ('O', true)
  | firstPlane .second => ('Q', true)
  | secondPlane => ('P', true)
  | korean => ('C', true)
  | chinese => ('A', true)

def isWide (g : Graphic) : Bool := g.mark.2

/-- The text of one byte. The last two sets are for single shifts only. -/
def one? (g : Graphic) (a : Nat) : Option Text :=
  match g with
  | ascii => some [CodePoint.ofNat a]
  | roman => (Japanese.roman? (UInt8.ofNat a)).map fun c => [c]
  | kana => (Japanese.kana? (UInt8.ofNat (a + 0x80))).map fun c => [c]
  | _ => none

/-- The text of two bytes. -/
def two? (g : Graphic) (a b : Nat) : Option Text :=
  let row := a - 0x20
  let column := b - 0x20
  match g with
  | jis | oldJis => (jisX0208.cell? row column).map fun c => [c]
  | supplement => (jisX0212.cell? row column).map fun c => [c]
  | firstPlane e =>
    if e = .first && JisX0213.late.contains (row, column) then none
    else JisX0213.firstPlane? row column
  | secondPlane => JisX0213.secondPlane? row column
  | korean => (ksX1001.cell? row column).map fun c => [c]
  | chinese => (RelayClient.gb2312.cell? row column).map fun c => [c]
  | _ => none

/-- Three signs that the Greek set got later. -/
def lateGreek : List UInt8 := [0xA4, 0xA5, 0xAA]

/-- The text of one byte behind a single shift. Outer nothing: no set for single shifts. -/
def single? (g : Graphic) (b : UInt8) : Option (Option CodePoint) :=
  match g with
  | ascii => some (if b < 0x80 then some (CodePoint.ofNat b.toNat) else none)
  | western => some (if b < 0x80 then some (CodePoint.ofNat (b.toNat + 0x80)) else none)
  | greek =>
    let c := b ^^^ 0x80
    some (if lateGreek.contains c then none
      else ((SingleByteSet.iso8859Part7.items [c]).head?).bind id)
  | _ => none

end Graphic

/-- An encoding by escape sequences: the sets it has beside ASCII, whether there are shift-in and
shift-out, whether there is a third place, and whether a sequence may begin with the mark of a
revised set. -/
structure Iso2022 where
  names : List String
  sets : List Graphic
  hasShifts : Bool := false
  hasThird : Bool := false
  hasRevisions : Bool := true

namespace Iso2022

structure State where
  first : Graphic := .ascii
  second : Graphic := .ascii
  third : Graphic := .ascii
  shifted : Bool := false
  /-- Within an escape sequence of another kind, which is kept as it is. -/
  foreign : Bool := false

def isFinal (b : UInt8) : Bool := 0x40 ≤ b && b ≤ 0x5A

def longestSequence : Nat := 16

/-- The length of the escape sequence that the bytes begin with. -/
inductive SequenceEnd where
  | at (length : Nat)
  | beyond
  | open

def sequenceEnd (revisions : Bool) (bytes : Bytes) : Nat → Nat → SequenceEnd
  | 0, _ => .beyond
  | fuel + 1, i =>
    if longestSequence ≤ i then .beyond
    else match bytes[i]? with
      | none => .open
      | some b =>
        if isFinal b then .at (i + 1)
        else if revisions && b = 0x26 && bytes[i + 1]? = some 0x40 then sequenceEnd revisions bytes fuel (i + 3)
        else sequenceEnd revisions bytes fuel (i + 1)

/-- The place that a sequence is for and the mark of its set. -/
def target? (e : Iso2022) (sequence : Bytes) : Option (Nat × Char × Bool) :=
  let char (b : UInt8) : Char := Char.ofNat b.toNat
  match sequence with
  | [_, 0x24, f] => some (0, char f, true)
  | [_, 0x28, f] => some (0, char f, false)
  | [_, 0x29, f] => some (1, char f, false)
  | [_, 0x2E, f] => if e.hasThird then some (2, char f, false) else none
  | [_, 0x24, 0x28, f] => some (0, char f, true)
  | [_, 0x24, 0x29, f] => some (1, char f, true)
  | [_, _, _, 0x1B, 0x24, 0x42] => if e.hasRevisions then some (0, 'B', true) else none
  | _ => none

def designate (e : Iso2022) (s : State) (bytes : Bytes) : Ahead State :=
  match sequenceEnd e.hasRevisions bytes longestSequence 1 with
  | .open => .unfinished
  | .beyond => .malformed 1
  | .at length =>
    match e.target? (bytes.take length) with
    | none => .malformed length
    | some (place, mark) =>
      match (Graphic.ascii :: e.sets).find? (·.mark = mark), place with
      | none, _ => .malformed length
      | some g, 0 => .read [] length { s with first := g }
      | some g, 1 => .read [] length { s with second := g }
      | some g, _ => .read [] length { s with third := g }

def opensDesignation (b : UInt8) : Bool := [0x28, 0x29, 0x24, 0x2E, 0x26].contains b

def ahead (e : Iso2022) (s : State) : Bytes → Ahead State
  | [] => .unfinished
  | a :: r =>
    let keep (s : State) : Ahead State := .read [CodePoint.ofNat a.toNat] 1 s
    if s.foreign then keep { s with foreign := !isFinal a }
    else if a = 0x1B then
      match r with
      | [] => .unfinished
      | b :: r =>
        if opensDesignation b then e.designate s (a :: b :: r)
        else if e.hasThird && b = 0x4E then
          match r with
          | [] => .unfinished
          | c :: _ => match s.third.single? c with
            | none => .lost
            | some none => .malformed 3
            | some (some c) => .read [c] 3 s
        else keep { s with foreign := true }
    else if a = 0x0F && e.hasShifts then .read [] 1 { s with shifted := false }
    else if a = 0x0E && e.hasShifts then .read [] 1 { s with shifted := true }
    else if a = 0x0A then keep { s with shifted := false }
    else if a < 0x20 then keep s
    else if 0x80 ≤ a then .malformed 1
    else
      let g := if s.shifted then s.second else s.first
      if g = .ascii then keep s
      else if !g.isWide then
        match g.one? a.toNat with
        | some t => .read t 1 s
        | none => .malformed 1
      else match r with
        | [] => .unfinished
        | b :: _ => match g.two? a.toNat b.toNat with
          | some t => .read t 2 s
          | none => .malformed 2

def japanese : Iso2022 where
  names := ["iso2022_jp", "csiso2022jp", "iso2022jp", "iso_2022_jp"]
  sets := [.jis, .roman, .oldJis]

def japanese1 : Iso2022 where
  names := ["iso2022_jp_1", "iso2022jp_1", "iso_2022_jp_1"]
  sets := [.jis, .supplement, .roman, .oldJis]

def japanese2 : Iso2022 where
  names := ["iso2022_jp_2", "iso2022jp_2", "iso_2022_jp_2"]
  sets := [.jis, .supplement, .korean, .chinese, .roman, .oldJis, .western, .greek]
  hasThird := true

def japanese3 : Iso2022 where
  names := ["iso2022_jp_3", "iso2022jp_3", "iso_2022_jp_3"]
  sets := [.jis, .firstPlane .first, .secondPlane]

def japanese2004 : Iso2022 where
  names := ["iso2022_jp_2004", "iso2022jp_2004", "iso_2022_jp_2004"]
  sets := [.jis, .firstPlane .second, .secondPlane]

def japaneseExtended : Iso2022 where
  names := ["iso2022_jp_ext", "iso2022jp_ext", "iso_2022_jp_ext"]
  sets := [.jis, .supplement, .roman, .kana, .oldJis]

def korean : Iso2022 where
  names := ["iso2022_kr", "csiso2022kr", "iso2022kr", "iso_2022_kr"]
  sets := [.korean]
  hasShifts := true
  hasRevisions := false

def all : List Iso2022 :=
  [japanese, japanese1, japanese2, japanese3, japanese2004, japaneseExtended, korean]

end Iso2022
end RelayClient
