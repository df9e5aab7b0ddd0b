import RelayClient.CharacterName
import RelayClient.Hex
import RelayClient.ReadText

/-!
# Text with backslash escapes

Bytes stand for the first 256 code points, and a backslash begins an escape. Raw text knows the two
escapes by number only; elsewhere a backslash stands for itself.
-/
namespace RelayClient.EscapedText

inductive Style where
  | full | raw
  deriving DecidableEq

inductive Place where
  | outside
  | backslash
  | hex (missing : Nat) (value : Nat)
  | octal (missing : Nat) (value : Nat)
  | nameBrace
  | name (reversed : List Char)

def byte (b : UInt8) : CodePoint := CodePoint.ofNat b.toNat

/-- The character that a letter or sign after a backslash stands for. -/
def simple? (b : UInt8) : Option CodePoint :=
  [('\\', '\\'), ('\'', '\''), ('"', '"'), ('b', '\x08'), ('f', '\x0c'), ('t', '\t'), ('n', '\n'),
    ('r', '\r'), ('v', '\x0b'), ('a', '\x07')].lookup (Char.ofNat b.toNat) |>.map CodePoint.ofChar

def octalDigit? (b : UInt8) : Option Nat :=
  if 0x30 ≤ b && b ≤ 0x37 then some (b.toNat - 0x30) else none

def outside (b : UInt8) : ReadText × Place :=
  if b = 0x5C then ([], .backslash) else ([some (byte b)], .outside)

/-- What a byte does when it is met after some pieces that are complete. -/
def after (t : ReadText) (b : UInt8) : ReadText × Place :=
  let (u, p) := outside b
  (t ++ u, p)

def codePoint? (n : Nat) : Option CodePoint := if n < 0x110000 then some (CodePoint.ofNat n) else none

def escape (style : Style) (b : UInt8) : ReadText × Place :=
  if b = 0x75 then ([], .hex 4 0)
  else if b = 0x55 then ([], .hex 8 0)
  else if style = .raw then ([some '\\', some (byte b)], .outside)
  else if b = 0x0A then ([], .outside)
  else if b = 0x78 then ([], .hex 2 0)
  else if b = 0x4E then ([], .nameBrace)
  else match octalDigit? b, simple? b with
    | some d, _ => ([], .octal 2 d)
    | none, some c => ([some c], .outside)
    | none, none => ([some '\\', some (byte b)], .outside)

def step (style : Style) (place : Place) (b : UInt8) : ReadText × Place :=
  match place with
  | .outside => outside b
  | .backslash => escape style b
  | .hex missing value => match Hex.digitValue? (byte b) with
    | none => after [none] b
    | some d =>
      let value := 16 * value + d
      if missing ≤ 1 then ([codePoint? value], .outside) else ([], .hex (missing - 1) value)
  | .octal missing value => match octalDigit? b with
    | none => after [codePoint? value] b
    | some d =>
      let value := 8 * value + d
      if missing ≤ 1 then ([codePoint? value], .outside) else ([], .octal (missing - 1) value)
  | .nameBrace => if b = 0x7B then ([], .name []) else after [none] b
  | .name reversed =>
    if b ≠ 0x7D then ([], .name (Char.ofNat b.toNat :: reversed))
    else if reversed.isEmpty then after [none] b
    else ([CharacterName.codePoint? reversed.reverse], .outside)

def atEnd (style : Style) : Place → ReadText
  | .outside => []
  | .octal _ value => [codePoint? value]
  | .backslash => [if style = .raw then some '\\' else none]
  | _ => [none]

def items (style : Style) : Place → Bytes → ReadText
  | p, [] => atEnd style p
  | p, b :: r =>
    let (t, p) := step style p b
    t ++ items style p r

end RelayClient.EscapedText
