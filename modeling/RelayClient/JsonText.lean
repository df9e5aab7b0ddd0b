import RelayClient.Fault
import RelayClient.Decimal64

/-!
# Plain JSON text

Compact JSON with every character beyond ASCII left as it is. Numbers and the three words may be
keys and are then written in quotes; tuples are written as arrays.
-/
namespace RelayClient.Json

/-- The short escapes of a JSON string. -/
def escapeChar (c : CodePoint) : Text :=
  if c = '"' then ['\\', '"']
  else if c = '\\' then ['\\', '\\']
  else if c = '\n' then ['\\', 'n']
  else if c = '\r' then ['\\', 'r']
  else if c = '\t' then ['\\', 't']
  else if c.val = 0x8 then ['\\', 'b']
  else if c.val = 0xC then ['\\', 'f']
  else if c.val < 0x20 then '\\' :: 'u' :: Hex.fixed 4 c.val
  else [c]

def string (t : Text) : Text := Text.between '"' '"' (t.flatMap escapeChar)

def word (b : Bool) : Text := if b then "true" else "false"

def integer (n : Int) : Except Unencodable Text :=
  if n.natAbs < Nat.pow 10 maxDigits then .ok (Text.ofInt n) else .error .longInteger

def number (x : Binary64) : Except Unencodable Text :=
  if x.isFinite then .ok x.toText else .error .notFinite

def key : Value → Except Unencodable Text
  | .text t => .ok t
  | .float x => number x
  | .bool b => .ok (word b)
  | .null => .ok "null"
  | .int n => integer n
  | v => .error (.key v.kind)

mutual

def write : Value → Except Unencodable Text
  | .null => .ok "null"
  | .bool b => .ok (word b)
  | .int n => integer n
  | .float x => number x
  | .text t => .ok (string t)
  | .bytes _ => .error .bytes
  | .array items => writeArray items
  | .tuple items => writeArray items
  | .object [] => .ok ['{', '}']
  | .object ((k, v) :: r) => do
    let k ← key k
    let v ← write v
    let r ← writeEntries r
    return '{' :: (string k ++ (':' : CodePoint) :: (v ++ r))

def writeArray : List Value → Except Unencodable Text
  | [] => .ok ['[', ']']
  | v :: r => do
    let v ← write v
    let r ← writeItems r
    return '[' :: (v ++ r)

/-- The items after the first, each behind a comma, and the closing bracket. -/
def writeItems : List Value → Except Unencodable Text
  | [] => .ok [']']
  | v :: r => do
    let v ← write v
    let r ← writeItems r
    return ',' :: (v ++ r)

/-- The entries after the first, each behind a comma, and the closing brace. -/
def writeEntries : List (Value × Value) → Except Unencodable Text
  | [] => .ok ['}']
  | (k, v) :: r => do
    let k ← key k
    let v ← write v
    let r ← writeEntries r
    return ',' :: (string k ++ (':' : CodePoint) :: (v ++ r))

end

end RelayClient.Json
