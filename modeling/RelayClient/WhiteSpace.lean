import RelayClient.Text

/-!
# The White_Space property
-/
namespace RelayClient

/-- Ranges of the Unicode property White_Space. -/
def whiteSpaceRanges : List (Nat × Nat) :=
  [(0x9, 0xD), (0x20, 0x20), (0x85, 0x85), (0xA0, 0xA0), (0x1680, 0x1680), (0x2000, 0x200A),
    (0x2028, 0x2029), (0x202F, 0x202F), (0x205F, 0x205F), (0x3000, 0x3000)]

def CodePoint.isWhiteSpace (c : CodePoint) : Bool :=
  whiteSpaceRanges.any fun r => r.1 ≤ c.val && c.val ≤ r.2

/-- Text without the white space at its two ends. -/
def Text.trimmed (t : Text) : Text :=
  ((t.dropWhile (·.isWhiteSpace)).reverse.dropWhile (·.isWhiteSpace)).reverse

example : " \t7\n".toList.all (fun c => c = '7' || (c : CodePoint).isWhiteSpace) := by decide

end RelayClient
