import RelayClient.Fault

/-!
# Categories of faults

Callers tell faults apart by category. A category may lie within wider ones, whose handlers take its
faults too.
-/
namespace RelayClient

inductive Category where
  | type | value | serialization | unicode | hexadecimal
  | attribute | index | overflow | assertion | runtime
  | precondition | response | connection
  | cryptography | cryptographicValue | forgery
  deriving DecidableEq

/-- Whether a handler for the second category takes the faults of the first one. -/
def Category.isWithin (c wide : Category) : Bool :=
  c == wide || match c with
    | serialization | unicode | hexadecimal => wide == value
    | cryptographicValue => wide == value || wide == cryptography
    | forgery => wide == cryptography
    | _ => false

def Undecodable.category : Undecodable → Category
  | nullCharacter => .value
  | notText => .assertion
  | notBytes => .type
  | unknownShift => .runtime
  | noByteOrderMark _ | undefinedSet | notReplacing | notAscii .. | longEnding => .unicode

def Fault.category : Fault → Category
  | hexNotText | notPosition .. | notIterable _ | notOrdered .. | notBytes _ | notInteger _ => .type
  | hexMalformed _ | byteOutOfRange | boundNotPositive | addressKeyLength | publicKeyLength _ |
    secp256k1Key | privateKeyLength | privateKeyMismatch | integerOfNan | integerLiteral _ |
    integerDigits _ | floatLiteral _ | unknownPrecondition _ => .value
  | noPosition _ | positionTooLarge => .index
  | noAttribute .. => .attribute
  | integerOfInfinity => .overflow
  | unencodable _ => .serialization
  | precondition _ => .precondition
  | broken _ => .runtime
  | connection _ => .connection
  | headerNotAscii _ => .unicode
  | serverStatus _ | unexpectedStatus _ | nonJson _ | malformed _ | rejected .. => .response
  | undecodable u => u.category

end RelayClient
