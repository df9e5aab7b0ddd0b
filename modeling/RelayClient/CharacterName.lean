import RelayClient.CharacterAliases
import RelayClient.CharacterNames0000
import RelayClient.CharacterNames1000
import RelayClient.CharacterNames10000
import RelayClient.CharacterNames12000
import RelayClient.CharacterNames16000
import RelayClient.CharacterNames1B000
import RelayClient.CharacterNames1D400
import RelayClient.CharacterNames1F000
import RelayClient.CharacterNames2000
import RelayClient.CharacterNames3000
import RelayClient.Hex

/-!
# Characters by name

Most names are listed, in capitals. The syllables of Hangul are named by their sounds and some
characters by their numbers.
-/
namespace RelayClient.CharacterName

def vowelLetters : List Char := ['A', 'E', 'I', 'O', 'U', 'W', 'Y']

def leadSounds : List String :=
  ["G", "GG", "N", "D", "DD", "R", "M", "B", "BB", "S", "SS", "", "J", "JJ", "C", "K", "T", "P", "H"]

def vowelSounds : List String :=
  ["A", "AE", "YA", "YAE", "EO", "E", "YEO", "YE", "O", "WA", "WAE", "OE", "YO", "U", "WEO", "WE",
    "WI", "YU", "EU", "YI", "I"]

def tailSounds : List String :=
  ["", "G", "GG", "GS", "N", "NJ", "NH", "D", "L", "LG", "LM", "LB", "LS", "LT", "LP", "LH", "M", "B",
    "BS", "S", "SS", "NG", "J", "C", "K", "T", "P", "H"]

/-- The syllables go by lead, then by vowel, then by tail. -/
def syllable? (name : List Char) : Option Nat := do
  let sounds ← "HANGUL SYLLABLE ".toList.isPrefixOf? name
  let (lead, rest) := sounds.span (!vowelLetters.contains ·)
  let (vowel, tail) := rest.span vowelLetters.contains
  let i ← leadSounds.idxOf? (String.ofList lead)
  let j ← vowelSounds.idxOf? (String.ofList vowel)
  let k ← tailSounds.idxOf? (String.ofList tail)
  return 0xAC00 + (i * vowelSounds.length + j) * tailSounds.length + k

/-- The number that hexadecimal digits stand for, the letters among them capitals. -/
def number? (digits : List Char) : Option Nat :=
  digits.foldlM (fun n c => do
    let d ← if c.isLower then none else Hex.digitValue? (CodePoint.ofChar c)
    return 16 * n + d) 0

def isWithin (ranges : List (Nat × Nat)) (n : Nat) : Bool :=
  ranges.any fun r => r.1 ≤ n && n ≤ r.2

def unifiedIdeographs : List (Nat × Nat) :=
  [(0x3400, 0x4DBF), (0x4E00, 0x9FFF), (0x20000, 0x2A6DF), (0x2A700, 0x2B738), (0x2B740, 0x2B81D),
    (0x2B820, 0x2CEA1), (0x2CEB0, 0x2EBE0), (0x30000, 0x3134A)]

/-- An ideograph is named by four or five digits. -/
def ideograph? (name : List Char) : Option Nat := do
  let digits ← "CJK UNIFIED IDEOGRAPH-".toList.isPrefixOf? name
  let n ← number? digits
  if (digits.length = 4 || digits.length = 5) && isWithin unifiedIdeographs n then some n else none

/-- Other names that end in a number, which has no zero in front. -/
def numberedCharacters : List (String × List (Nat × Nat)) :=
  [("CJK COMPATIBILITY IDEOGRAPH-", [(0xF900, 0xFA6D), (0xFA70, 0xFAD9), (0x2F800, 0x2FA1D)]),
    ("KHITAN SMALL SCRIPT CHARACTER-", [(0x18B00, 0x18CD5)]),
    ("NUSHU CHARACTER-", [(0x1B170, 0x1B2FB)])]

def numbered? (name : List Char) : Option Nat :=
  numberedCharacters.findSome? fun (head, ranges) => do
    let digits ← head.toList.isPrefixOf? name
    let n ← number? digits
    if digits.head? ≠ some '0' && isWithin ranges n then some n else none

def runs : List NamedRun :=
  from0000 ++ from1000 ++ from2000 ++ from3000 ++ from10000 ++ from12000 ++ from16000 ++ from1B000 ++
    from1D400 ++ from1F000 ++ aliases

/-- The character of a name. Listed names may be written in small letters as well. -/
def codePoint? (name : List Char) : Option CodePoint :=
  let capitals := name.map Char.toUpper
  (syllable? name <|> ideograph? name <|> numbered? capitals <|> runs.findSome? (·.find? capitals)).map
    CodePoint.ofNat

end RelayClient.CharacterName
