import RelayClient.JsonReader
import RelayClient.Utf8
import RelayClient.WideUnicode

/-!
# Reading JSON bytes

A document says how it is encoded by its byte order mark or, since it begins with ASCII, by where
its first zero bytes stand. Encoded surrogates are kept; any other malformed piece makes the
document unreadable.
-/
namespace RelayClient.Json

/-- The text of a document as items of its encoding, the byte order mark left out. -/
def items (bytes : Bytes) : ReadText :=
  if [0, 0, 0xFE, 0xFF].isPrefixOf bytes then Utf32.items true .bigEndian (bytes.drop 4)
  else if [0xFF, 0xFE, 0, 0].isPrefixOf bytes then Utf32.items true .littleEndian (bytes.drop 4)
  else if [0xFE, 0xFF].isPrefixOf bytes then Utf16.items true .bigEndian (bytes.drop 2)
  else if [0xFF, 0xFE].isPrefixOf bytes then Utf16.items true .littleEndian (bytes.drop 2)
  else if [0xEF, 0xBB, 0xBF].isPrefixOf bytes then Utf8.items true none (bytes.drop 3)
  else match bytes with
    | a :: b :: c :: d :: _ =>
      if a = 0 then
        if b = 0 then Utf32.items true .bigEndian bytes else Utf16.items true .bigEndian bytes
      else if b = 0 then
        if c = 0 && d = 0 then Utf32.items true .littleEndian bytes
        else Utf16.items true .littleEndian bytes
      else Utf8.items true none bytes
    | [a, b] =>
      if a = 0 then Utf16.items true .bigEndian bytes
      else if b = 0 then Utf16.items true .littleEndian bytes
      else Utf8.items true none bytes
    | _ => Utf8.items true none bytes

def decodeText? (bytes : Bytes) : Option Text := (items bytes).intact?

/-- The value that a document writes. -/
def parse? (bytes : Bytes) : Option Value := (decodeText? bytes).bind read?

end RelayClient.Json
