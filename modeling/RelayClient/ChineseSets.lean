import RelayClient.BigFive
import RelayClient.Gb18030
import RelayClient.HongKongSet
import RelayClient.MultiByte

/-!
# Chinese character sets
-/
namespace RelayClient.Chinese

/-- ASCII and characters of two bytes. -/
def double (cell? : Nat → Nat → Option CodePoint) : Bytes → Ahead Unit
  | [] => .unfinished
  | a :: r =>
    if a < 0x80 then .single a
    else match r with
      | [] => .unfinished
      | b :: _ => .ofCell 2 (cell? a.toNat b.toNat)

def nationalCell? (row column : Nat) : Option CodePoint :=
  (gb2312.cell? row column).map CodePoint.ofChar

def gb2312 : Bytes → Ahead Unit :=
  double fun a b => nationalCell? (a - 0xA0) (b - 0xA0)

def gbk : Bytes → Ahead Unit := double fun a b => (Gbk.cell? a b).map CodePoint.ofChar

def gb18030 : Bytes → Ahead Unit
  | [] => .unfinished
  | a :: r =>
    if a < 0x80 then .single a
    else match r with
      | [] => .unfinished
      | b :: r =>
        if 0x30 ≤ b ∧ b ≤ 0x39 then
          match r with
          | c :: d :: _ => .ofCell 4
            (if 0x81 ≤ a ∧ a ≤ 0xFE ∧ 0x81 ≤ c ∧ c ≤ 0xFE ∧ 0x30 ≤ d ∧ d ≤ 0x39 then
              Gb18030.fourBytes? (Gb18030.number a.toNat b.toNat c.toNat d.toNat)
            else none)
          | _ => .unfinished
        else .ofCell 2 (Gb18030.cell? a.toNat b.toNat)

/-- Tildes change between ASCII, where the flag is false, and GB 2312 in seven bits. -/
def hz (national : Bool) : Bytes → Ahead Bool
  | [] => .unfinished
  | 0x7E :: r => match national, r with
    | _, [] => .unfinished
    | false, 0x7E :: _ => .read [('~' : CodePoint)] 2 false
    | false, 0x7B :: _ => .read [] 2 true
    | false, 0x0A :: _ => .read [] 2 false
    | true, 0x7D :: _ => .read [] 2 false
    | _, _ => .malformed 1
  | a :: r =>
    if 0x80 ≤ a then .malformed 1
    else if !national then .read [CodePoint.ofNat a.toNat] 1 false
    else match r with
      | [] => .unfinished
      | b :: _ => match nationalCell? (a.toNat - 0x20) (b.toNat - 0x20) with
        | some c => .read [c] 2 true
        | none => .malformed 1

def bigFiveColumn (trail : Nat) : Nat :=
  if 0x40 ≤ trail ∧ trail ≤ 0x7E then trail - 0x3F
  else if 0xA1 ≤ trail ∧ trail ≤ 0xFE then trail - 0xA1 + 64
  else 0

def bigFive? (lead trail : Nat) : Option CodePoint :=
  (bigFive.cell? lead (bigFiveColumn trail)).map CodePoint.ofChar

def big5 : Bytes → Ahead Unit := double bigFive?

/-- Cells that the code page fills otherwise. -/
def codePage950Signs : List ((Nat × Nat) × Char) :=
  [((0xA1, 0x45), '‧'), ((0xA1, 0x4E), '﹑'), ((0xA1, 0xC2), '¯'), ((0xA1, 0xE3), '～'),
    ((0xA1, 0xF2), '⊕'), ((0xA1, 0xF3), '⊙'), ((0xA2, 0x41), '∕'), ((0xA2, 0x42), '﹨'),
    ((0xA2, 0x44), '￥'), ((0xA2, 0x46), '￠'), ((0xA2, 0x47), '￡'), ((0xA3, 0xE1), '€')]

/-- What it has from F9D6 on. -/
def codePage950Ending : String := "碁銹裏墻恒粧嫺╔╦╗╠╬╣╚╩╝╒╤╕╞╪╡╘╧╛╓╥╖╟╫╢╙╨╜║═╭╮╰╯▓"

def codePage950 : Bytes → Ahead Unit :=
  double fun lead trail =>
    match codePage950Signs.lookup (lead, trail) with
    | some c => some c
    | none =>
      if lead = 0xF9 ∧ 0xD6 ≤ trail then
        (codePage950Ending.toList[trail - 0xD6]?).map CodePoint.ofChar
      else bigFive? lead trail

/-- Letters with two marks each. -/
def hongKongMarked : List ((Nat × Nat) × String) :=
  [((0x88, 0x62), "Ê\u0304"), ((0x88, 0x64), "Ê\u030c"), ((0x88, 0xA3), "ê\u0304"),
    ((0x88, 0xA5), "ê\u030c")]

/-- The supplement comes after Big Five, but in its own rows it stands alone. -/
def big5HongKong (bytes : Bytes) : Ahead Unit :=
  match bytes with
  | a :: b :: _ =>
    if a < 0x80 then .single a
    else
      let lead := a.toNat
      let trail := b.toNat
      let added := (hongKong.cell? lead (bigFiveColumn trail)).map CodePoint.ofChar
      let isOwn := 0xC6 ≤ lead && lead ≤ 0xC8 && (0xC7 ≤ lead || 0xA1 ≤ trail)
      match (if isOwn then added else (bigFive? lead trail).or added),
        hongKongMarked.lookup (lead, trail) with
      | some c, _ => .read [c] 2 ()
      | none, some t => .read (Text.ofString t) 2 ()
      | none, none => .malformed 1
  | [a] => if a < 0x80 then .single a else .unfinished
  | [] => .unfinished

end RelayClient.Chinese
