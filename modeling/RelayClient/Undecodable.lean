/-!
# Texts that cannot be read

Malformed bytes are replaced, but some bytes and some names of character sets fail altogether.
-/
namespace RelayClient

/-- Why no text comes out: a byte order mark or a known shift is missing, the set is none or takes no
replacements, it is not between bytes and text, or too much is left unfinished at the end. -/
inductive Undecodable where
  | noByteOrderMark (encoding : String)
  | nullCharacter
  | undefinedSet
  | notReplacing
  | notText
  | notBytes
  | notAscii (byte : UInt8) (position : Nat)
  | longEnding
  | unknownShift
  deriving DecidableEq

def Undecodable.message : Undecodable → String
  | noByteOrderMark encoding => encoding ++ " stream does not start with BOM"
  | nullCharacter => "embedded null character"
  | undefinedSet => "undefined encoding"
  | notReplacing => "Unsupported error handling replace"
  | notText => ""
  | notBytes => "descriptor 'translate' for 'str' objects doesn't apply to a 'bytes' object"
  | notAscii byte position => "'ascii' codec can't decode byte 0x" ++
      String.ofList (Nat.toDigits 16 byte.toNat) ++ " in position " ++ toString position ++
      ": ordinal not in range(128)"
  | longEnding => "pending buffer overflow"
  | unknownShift => "internal codec error"

end RelayClient
