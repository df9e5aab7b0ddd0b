import RelayClient.Fault
import RelayClient.Numeral

/-!
# Conversions of loosely typed values
-/
namespace RelayClient

def bytesOfInts : List Int → Except Fault Bytes
  | [] => .ok []
  | n :: r => do
    if 0 ≤ n ∧ n < 256 then return UInt8.ofNat n.toNat :: (← bytesOfInts r)
    else throw .byteOutOfRange

namespace Value

def get? (v : Value) (key : String) : Except Fault (Option Value) :=
  match v with
  | object entries => .ok (Entries.value? key entries)
  | v => .error (.noAttribute v.kind "get")

/-- The members of a value that has members; the members of an object are its keys. -/
def elements : Value → Except Fault (List Value)
  | text t => .ok (t.map fun c => text [c])
  | bytes b => .ok (b.map fun x => int x.toNat)
  | array items => .ok items
  | tuple items => .ok items
  | object entries => .ok (entries.map Prod.fst)
  | v => .error (.notIterable v.kind)

/-- The integer a text spells. Too many digits are refused before what follows them is looked at; a
text that is not a numeral is shown in the first 200 characters of its quoted form. -/
def integerOf (numeral : Option Numeral.Integer) (shown : Text) : Except Fault Int :=
  match numeral with
  | none => .error (.integerLiteral (shown.take 200))
  | some n =>
    if n.digits.length > maxDigits then .error (.integerDigits n.digits.length)
    else if n.rest.isEmpty then .ok n.value
    else .error (.integerLiteral (shown.take 200))

/-- The integer a value stands for; floats lose their fraction. -/
def toInteger : Value → Except Fault Int
  | bool b => .ok b.toInt
  | int n => .ok n
  | float (.infinite _) => .error .integerOfInfinity
  | float x => match x.truncate? with
    | some n => .ok n
    | none => .error .integerOfNan
  | text t => integerOf (Numeral.integer? t) t.quoted
  | bytes b => integerOf (Numeral.integer? (b.map fun x =>
      if x.toNat < 0x80 then CodePoint.ofNat x.toNat else CodePoint.replacement)) (quotedBytes b)
  | v => .error (.notInteger v.kind)

end Value
end RelayClient
