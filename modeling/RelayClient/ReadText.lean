import RelayClient.Value

/-!
# Text as it was read

A decoder gives a code point for each character and nothing for each malformed piece, so that
replacing malformed input and refusing it are two views of one reading.
-/
namespace RelayClient

abbrev ReadText := List (Option CodePoint)

namespace ReadText

/-- The text with malformed pieces replaced. -/
def replaced (t : ReadText) : Text := t.map (·.getD CodePoint.replacement)

/-- The text, if nothing in it is malformed. -/
def intact? (t : ReadText) : Option Text := t.mapM id

def ofText (t : Text) : ReadText := t.map some

end ReadText
end RelayClient
