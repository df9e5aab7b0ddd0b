import RelayClient.ReadText

/-!
# Single-byte character sets

Each byte stands for a character of its own. Up to some byte most sets agree with ASCII; a table
gives the characters from there on, U+FFFD standing for a byte without a character.
-/
namespace RelayClient

/-- A character set by its names, its own first, and the characters of its last bytes. -/
structure SingleByteSet where
  names : List String
  upper : String

namespace SingleByteSet

def items (s : SingleByteSet) (bytes : Bytes) : ReadText :=
  let upper := s.upper.toList.toArray
  bytes.map fun b =>
    let own := 0x100 - upper.size
    if b.toNat < own then some (CodePoint.ofNat b.toNat)
    else match upper[b.toNat - own]? with
      | some '\ufffd' | none => none
      | some c => some c

end SingleByteSet
end RelayClient
