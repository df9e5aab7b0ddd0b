import RelayClient.Value
import RelayClient.Decimal64
import RelayClient.Hex
import RelayClient.Printable

/-!
# Values as text

Faults quote the text they object to, and conversions to text write any value out. Quoted text
stands in single quotes unless it holds one and no double quote.
-/
namespace RelayClient

/-- A backslash escape with the number of the character. -/
def CodePoint.escape (c : CodePoint) : Text :=
  if c.val < 0x100 then Text.ofString "\\x" ++ Hex.fixed 2 c.val
  else if c.val < 0x10000 then Text.ofString "\\u" ++ Hex.fixed 4 c.val
  else Text.ofString "\\U" ++ Hex.fixed 8 c.val

namespace Text

/-- The quote around a text: the single one unless only that one occurs inside. -/
def quote (hasSingle hasDouble : Bool) : Char := if hasSingle && !hasDouble then '"' else Char.ofNat 0x27

def escapeQuoted (q : Char) (c : CodePoint) : Text :=
  if c = (q : CodePoint) || c = '\\' then ['\\', c]
  else if c = '\n' then ofString "\\n"
  else if c = '\r' then ofString "\\r"
  else if c = '\t' then ofString "\\t"
  else if c.isPrintable then [c]
  else c.escape

def quoted (t : Text) : Text :=
  let q := quote (t.any (·.val == 0x27)) (t.any (·.val == 0x22))
  between q q (t.flatMap (escapeQuoted q))

end Text

/-- Bytes in quotes after a `b`, those outside printable ASCII as escapes. -/
def quotedBytes (b : Bytes) : Text :=
  let q := Text.quote (b.any (· == 0x27)) (b.any (· == 0x22))
  let escape (x : UInt8) : Text :=
    if x.toNat < 0x7F then Text.escapeQuoted q (CodePoint.ofNat x.toNat)
    else Text.ofString "\\x" ++ Hex.fixed 2 x.toNat
  'b' :: Text.between q q (b.flatMap escape)

namespace Value

mutual

/-- A value written out with its texts in quotes. An integer is written out however many digits it has:
that there may be no text for one beyond a limit of 4300 digits is left out. -/
def quoted : Value → Text
  | null => Text.ofString "None"
  | bool b => Text.ofString (if b then "True" else "False")
  | int n => Text.ofInt n
  | float x => x.toText
  | text t => t.quoted
  | bytes b => quotedBytes b
  | array items => Text.between '[' ']' (Text.joined ", " (quotedItems items))
  | tuple [item] => Text.between '(' ')' (quoted item ++ Text.ofString ",")
  | tuple items => Text.between '(' ')' (Text.joined ", " (quotedItems items))
  | object entries => Text.between '{' '}' (Text.joined ", " (quotedEntries entries))

def quotedItems : List Value → List Text
  | [] => []
  | v :: r => quoted v :: quotedItems r

def quotedEntries : List (Value × Value) → List Text
  | [] => []
  | (k, v) :: r => (quoted k ++ Text.ofString ": " ++ quoted v) :: quotedEntries r

end

/-- A value as text: a text is itself, and any other value is written out, an integer in full. -/
def display : Value → Text
  | text t => t
  | v => v.quoted

end Value
end RelayClient
