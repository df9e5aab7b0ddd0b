/-!
# Runs of named characters
-/
namespace RelayClient

/-- Neighbouring characters, beginning with `first`, whose names begin with the same head. The rests
of their names stand in lines, between commas; an empty rest skips a character that is named
elsewhere. -/
structure NamedRun where
  first : Nat
  head : String
  lines : List String

namespace NamedRun

def rests (r : NamedRun) : List (List Char) := r.lines.flatMap (·.toList.splitOn ',')

/-- The number of the character with a name. -/
def find? (r : NamedRun) (name : List Char) : Option Nat :=
  (r.head.toList.isPrefixOf? name).bind fun rest =>
    if rest.isEmpty then none else (r.rests.idxOf? rest).map (r.first + ·)

end NamedRun
end RelayClient
