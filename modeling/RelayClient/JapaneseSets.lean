import RelayClient.JisX0212
import RelayClient.JisX0213
import RelayClient.MultiByte
import RelayClient.CodePage932

/-!
# Japanese character sets
-/
namespace RelayClient.Japanese

open JisX0213 (Edition)

/-- The katakana of half width. -/
def kana? (b : UInt8) : Option CodePoint :=
  if 0xA1 ≤ b ∧ b ≤ 0xDF then some (CodePoint.ofNat (0xFEC0 + b.toNat)) else none

def jis? (row column : Nat) : Option CodePoint := (jisX0208.cell? row column).map CodePoint.ofChar

/-- Text of a cell, or a malformed byte. -/
def ofText (size : Nat) (t : Option Text) : Ahead Unit :=
  match t with
  | some t => .read t size ()
  | none => .malformed 1

/-- A cell of the first plane; both bytes of one that came later are malformed together. -/
def ofFirstPlane (e : Edition) (row column : Nat) (t : Option Text) : Ahead Unit :=
  if e = .first && JisX0213.late.contains (row, column) then .malformed 2 else ofText 2 t

/-- The first edition has another form of one ideograph of the second plane. -/
def secondPlane? (e : Edition) (row column : Nat) : Option Text :=
  if e = .first ∧ row = 93 ∧ column = 27 then some [('鬝' : CodePoint)]
  else JisX0213.secondPlane? row column

/-- Extended code: two bytes for the main set, with a first byte 8E for katakana and with one 8F
for the supplement. -/
def extended (main : Nat → Nat → Ahead Unit) (supplement : Nat → Nat → Option Text) :
    Bytes → Ahead Unit
  | [] => .unfinished
  | a :: r =>
    if a < 0x80 then .single a
    else match a, r with
      | _, [] => .unfinished
      | 0x8E, b :: _ => .ofCell 2 (kana? b)
      | 0x8F, b :: c :: _ => ofText 3 (supplement (b.toNat - 0xA0) (c.toNat - 0xA0))
      | 0x8F, _ => .unfinished
      | a, b :: _ => main (a.toNat - 0xA0) (b.toNat - 0xA0)

def euc : Bytes → Ahead Unit :=
  extended (fun row column => .ofCell 2 (jis? row column))
    (fun row column => (jisX0212.cell? row column).map fun c => [c])

def eucJis (e : Edition) : Bytes → Ahead Unit :=
  extended
    (fun row column => ofFirstPlane e row column
      (if row = 2 ∧ column = 18 then some [('～' : CodePoint)] else JisX0213.firstPlane? row column))
    (fun row column => (secondPlane? e row column).or
      ((jisX0212.cell? row column).map fun c => [c]))

/-- Shifted code: the row and column of two bytes. Rows past 94 lie in further areas. -/
def shiftedCell? (lead trail : Nat) : Option (Nat × Nat) :=
  if 0x40 ≤ trail ∧ trail ≤ 0xFC ∧ trail ≠ 0x7F then
    let pair := if lead < 0xE0 then lead - 0x81 else lead - 0xC1
    let column := if trail < 0x80 then trail - 0x40 else trail - 0x41
    some (2 * pair + column / 94 + 1, column % 94 + 1)
  else none

def isShiftedLead (b : UInt8) : Bool := (0x81 ≤ b && b ≤ 0x9F) || (0xE0 ≤ b && b ≤ 0xFC)

def shifted (one : UInt8 → Option CodePoint) (two : Nat → Nat → Ahead Unit) : Bytes → Ahead Unit
  | [] => .unfinished
  | a :: r =>
    match one a, r with
    | some c, _ => .read [c] 1 ()
    | none, r =>
      if !isShiftedLead a then .malformed 1
      else match r with
        | [] => .unfinished
        | b :: _ => two a.toNat b.toNat

def asciiOrKana? (b : UInt8) : Option CodePoint :=
  if b < 0x80 then some (CodePoint.ofNat b.toNat) else kana? b

def shiftJis : Bytes → Ahead Unit :=
  shifted asciiOrKana? fun lead trail =>
    .ofCell 2 ((shiftedCell? lead trail).bind fun (row, column) => jis? row column)

/-- The yen sign and the overline stand where ASCII has the backslash and the tilde. -/
def roman? (b : UInt8) : Option CodePoint :=
  if b = 0x5C then some '¥' else if b = 0x7E then some '‾' else asciiOrKana? b

/-- The row of the second plane that a further row holds. -/
def secondPlaneRow (row : Nat) : Nat :=
  if 104 ≤ row then row - 26
  else if 100 ≤ row ∨ row = 96 then row - 88
  else row - 94

def shiftJis2004 (e : Edition) : Bytes → Ahead Unit :=
  shifted roman? fun lead trail =>
    match shiftedCell? lead trail with
    | none => .malformed 1
    | some (row, column) =>
      if row ≤ 94 then ofFirstPlane e row column
        (if row = 1 ∧ column = 32 then some [('\\' : CodePoint)] else JisX0213.firstPlane? row column)
      else ofText 2 (secondPlane? e (secondPlaneRow row) column)

def codePage932Single? (b : UInt8) : Option CodePoint :=
  if b = 0x80 then some (CodePoint.ofNat 0x80)
  else if b = 0xA0 then some (CodePoint.ofNat 0xF8F0)
  else if 0xFD ≤ b then some (CodePoint.ofNat (0xF8F1 + (b.toNat - 0xFD)))
  else asciiOrKana? b

/-- The code page has signs and ideographs of its own, and an area for private use. -/
def codePage932 : Bytes → Ahead Unit :=
  shifted codePage932Single? fun lead trail =>
    .ofCell 2 ((shiftedCell? lead trail).bind fun (row, column) =>
      if 0xF0 ≤ lead ∧ lead ≤ 0xF9 then
        some (CodePoint.ofNat (0xE000 + 94 * (row - 95) + (column - 1)))
      else ((CodePage932.cell? row column).map CodePoint.ofChar).or (jis? row column))

end RelayClient.Japanese
