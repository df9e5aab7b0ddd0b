import RelayClient.ValueText
import RelayClient.Precondition
import RelayClient.Undecodable

/-!
# Everything that can go wrong

A fault says what was wrong; its message is the one sentence a caller or a log line gets.
-/
namespace RelayClient

/-- Why a value has no canonical encoding. -/
inductive Unencodable where
  | bytes
  | notFinite
  | longInteger
  | key (k : Kind)
  | surrogate
  deriving DecidableEq

inductive Fault where
  | hexNotText
  | hexMalformed (t : Text)
  | byteOutOfRange
  | boundNotPositive
  | noPosition (k : Kind)
  | positionTooLarge
  | notPosition (owner position : Kind)
  | addressKeyLength
  | publicKeyLength (size : Nat)
  | secp256k1Key
  | privateKeyLength
  | privateKeyMismatch
  | noAttribute (k : Kind) (name : String)
  | notIterable (k : Kind)
  | notOrdered (left right : Kind)
  | notBytes (k : Kind)
  | notInteger (k : Kind)
  | integerOfNan
  | integerOfInfinity
  | integerLiteral (shown : Text)
  | integerDigits (count : Nat)
  | floatLiteral (t : Text)
  | unencodable (u : Unencodable)
  | precondition (p : Precondition)
  | unknownPrecondition (t : Text)
  | broken (message : Text)
  | connection (message : Text)
  | headerNotAscii (header : Text)
  | serverStatus (status : Int)
  | unexpectedStatus (status : Int)
  | nonJson (body : Text)
  | malformed (body : Text)
  | rejected (code : Int) (codespace message : Text) (servicer : Value)
  | undecodable (u : Undecodable)

/-- Integers are read and written in at most this many decimal digits. -/
def maxDigits : Nat := 4300

namespace Unencodable

/-- The reason given for an encoding that could not be written at all. -/
def reason : Unencodable → String
  | bytes => "Object of type bytes is not JSON serializable"
  | notFinite => "Out of range float values are not JSON compliant"
  | longInteger => "Exceeds the limit (" ++ toString maxDigits ++
      " digits) for integer string conversion; use sys.set_int_max_str_digits() to increase the limit"
  | key k => "keys must be str, int, float, bool or None, not " ++ k.name
  | surrogate => "surrogates not allowed"

def message : Unencodable → String
  | surrogate => "payload contains invalid unicode"
  | u => "payload is not JSON serialisable: " ++ u.reason

end Unencodable

namespace Fault

def kindPhrase (before : String) (k : Kind) (after : String) : Text :=
  Text.ofString (before ++ "'" ++ k.name ++ "'" ++ after)

/-- Names the first stretch of a header that is not ASCII. -/
def notAsciiPhrase (header : Text) : Text :=
  let isAscii (c : CodePoint) : Bool := c.val < 0x80
  let start := (header.takeWhile isAscii).length
  let stretch := (header.dropWhile isAscii).takeWhile (!isAscii ·)
  let place := match stretch with
    | [c] => Text.ofString "character '" ++ c.escape ++ Text.ofString "' in position " ++ Text.ofNat start
    | _ => Text.ofString "characters in position " ++ Text.ofNat start ++ Text.ofString "-" ++
        Text.ofNat (start + stretch.length - 1)
  Text.ofString "'ascii' codec can't encode " ++ place ++ Text.ofString ": ordinal not in range(128)"

def message : Fault → Text
  | hexNotText => "hex value must be a string"
  | hexMalformed t => Text.ofString "invalid hex string: " ++ t.quoted
  | byteOutOfRange => "bytes must be in range(0, 256)"
  | boundNotPositive => "upper bound must be positive"
  | noPosition .bytes => "index out of range"
  | noPosition k => Text.ofString (k.name ++ " index out of range")
  | positionTooLarge => "cannot fit 'int' into an index-sized integer"
  | notPosition .text k => kindPhrase "string indices must be integers, not " k ""
  | notPosition .bytes k => Text.ofString ("byte indices must be integers or slices, not " ++ k.name)
  | notPosition owner k =>
    Text.ofString (owner.name ++ " indices must be integers or slices, not " ++ k.name)
  | addressKeyLength => "ed25519 public keys must be 32 bytes long"
  | publicKeyLength size => Text.ofString ("unsupported public key length: " ++ toString size ++ " bytes")
  | secp256k1Key => "invalid secp256k1 public key"
  | privateKeyLength => "private key must be 32 or 64 bytes long"
  | privateKeyMismatch => "private key does not match its embedded public key"
  | noAttribute k name => kindPhrase "" k (" object has no attribute '" ++ name ++ "'")
  | notIterable k => kindPhrase "" k " object is not iterable"
  | notOrdered left right =>
    kindPhrase "'<' not supported between instances of " left (" and '" ++ right.name ++ "'")
  | notBytes k => kindPhrase "a bytes-like object is required, not " k ""
  | notInteger k =>
    kindPhrase "int() argument must be a string, a bytes-like object or a real number, not " k ""
  | integerOfNan => "cannot convert float NaN to integer"
  | integerOfInfinity => "cannot convert float infinity to integer"
  | integerLiteral shown => Text.ofString "invalid literal for int() with base 10: " ++ shown
  | integerDigits count => Text.ofString ("Exceeds the limit (" ++ toString maxDigits ++
      " digits) for integer string conversion: value has " ++ toString count ++
      " digits; use sys.set_int_max_str_digits() to increase the limit")
  | floatLiteral t => Text.ofString "could not convert string to float: " ++ t.quoted
  | unencodable u => u.message
  | precondition p => p.message
  | unknownPrecondition t => t.quoted ++ Text.ofString " is not a valid RelayerErrorKind"
  | broken m => m
  | connection m => m
  | headerNotAscii header => notAsciiPhrase header
  | serverStatus _ => "error: >= 500 status code on connection"
  | unexpectedStatus s => Text.ofString "error: unexpected status code " ++ Text.ofInt s ++
      Text.ofString " on connection"
  | nonJson _ => "non JSON response"
  | malformed _ => "malformed relay response"
  | rejected code codespace m _ => Text.ofString "Request failed with code: " ++ Text.ofInt code ++
      Text.ofString ", codespace: " ++ codespace ++ Text.ofString " and message: " ++ m
  | undecodable u => u.message

end Fault
end RelayClient
