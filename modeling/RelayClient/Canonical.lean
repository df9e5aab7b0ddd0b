import RelayClient.JsonText
import RelayClient.Utf8

/-!
# The canonical encoding

Servicers hash the documents they decode, so each value has one byte form: compact JSON in which
the control characters without a one-letter escape, the three characters that matter to HTML and
the two line separators are written as `\u` escapes. It is made from plain JSON text by two passes
over the whole document.
-/
namespace RelayClient.Canonical

/-- What is written for the two escape pairs that have a longer form. -/
def longEscape (c : CodePoint) : Option Text :=
  if c = 'b' then some "\\u0008" else if c = 'f' then some "\\u000c" else none

/-- Replaces escape pairs from left to right, so that an escaped backslash never pairs with the
character behind it. -/
def lengthenEscapes : Text → Text
  | [] => []
  | [c] => [c]
  | c :: d :: r =>
    if c = '\\' && d ≠ '\n' then
      match longEscape d with
      | some t => t ++ lengthenEscapes r
      | none => c :: d :: lengthenEscapes r
    else c :: lengthenEscapes (d :: r)

/-- The characters that never stand in a document as themselves, and their escapes. -/
def escapes : List (CodePoint × Text) :=
  [('<', "\\u003c"), ('>', "\\u003e"), ('&', "\\u0026"),
    (CodePoint.ofNat 0x2028, "\\u2028"), (CodePoint.ofNat 0x2029, "\\u2029")]

def replaceAll (t : Text) (e : CodePoint × Text) : Text :=
  t.flatMap fun c => if c = e.1 then e.2 else [c]

def escapeDocument (t : Text) : Text := escapes.foldl replaceAll (lengthenEscapes t)

def document (v : Value) : Except Unencodable Text := return escapeDocument (← Json.write v)

def encode (v : Value) : Except Unencodable Bytes := do
  match Utf8.encode? (← document v) with
  | some bytes => return bytes
  | none => throw .surrogate

end RelayClient.Canonical
