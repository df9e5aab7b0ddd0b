import RelayClient.Fault
import RelayClient.Hex
import RelayClient.Numeral
import RelayClient.RunMergeSort
import RelayClient.WhiteSpace

/-!
# Parameters of a media type

A parameter is a name and a value. A long value may be cut into numbered pieces, `name*0`, `name*1`
and so on. A piece whose name ends with a star is written in percent escapes, and if there is one the
value begins with the character set and the language it is meant in.
-/
namespace RelayClient.MediaType

/-- White space, and the separators among the control characters. -/
def isBlank (c : Char) : Bool :=
  (CodePoint.ofChar c).isWhiteSpace || ('\x1c' ≤ c && c ≤ '\x1f')

def strip (s : List Char) : List Char :=
  ((s.dropWhile isBlank).reverse.dropWhile isBlank).reverse

/-- The pieces of a media type between its semicolons, those within quotes not counting. -/
def split (quoted : Bool) (piece : List Char) : List Char → List (List Char)
  | [] => [piece.reverse]
  | '\\' :: '"' :: r => split quoted ('"' :: '\\' :: piece) r
  | c :: r =>
    if c = '"' then split (!quoted) (c :: piece) r
    else if c = ';' && !quoted then piece.reverse :: split false [] r
    else split quoted (c :: piece) r

/-- Writes one character for each pair of a backslash and the character itself. -/
def unescape (c : Char) : List Char → List Char
  | [] => []
  | [a] => [a]
  | a :: b :: r => if a = '\\' && b = c then c :: unescape c r else a :: unescape c (b :: r)

/-- A value without the quotes or angle brackets around it. -/
def unquote (s : List Char) : List Char :=
  match s, s.getLast? with
  | '"' :: r@(_ :: _), some '"' => unescape '"' (unescape '\\' r.dropLast)
  | '<' :: r@(_ :: _), some '>' => r.dropLast
  | s, _ => s

def hexDigit? (c : Char) : Option Nat := Hex.digitValue? (CodePoint.ofChar c)

/-- Replaces percent escapes by the characters of their numbers. -/
def unpercent : List Char → List Char
  | '%' :: a :: b :: r =>
    match hexDigit? a, hexDigit? b with
    | some x, some y => Char.ofNat (16 * x + y) :: unpercent r
    | _, _ => '%' :: unpercent (a :: b :: r)
  | c :: r => c :: unpercent r
  | [] => []

/-- The small letter of a character, if it is ASCII: besides the capital letters the Kelvin sign has
one. -/
def lower (c : Char) : Char := if c.toNat = 0x212A then 'k' else c.toLower

structure Parameter where
  name : List Char
  value : List Char

def Parameter.ofPiece (piece : List Char) : Parameter :=
  match piece.span (· != '=') with
  | (name, _ :: value) => ⟨(strip name).map lower, strip value⟩
  | (name, []) => ⟨strip name, []⟩

structure Part where
  number : Option Nat
  value : List Char
  escaped : Bool

/-- The name and the number that a parameter's name gives it as a part. -/
def partName? (name : List Char) : Option (List Char × Option (List Char)) :=
  match name.span fun c => c.isAlphanum || c = '_' with
  | (_ :: _, ['*']) => some (name.dropLast, none)
  | (base@(_ :: _), '*' :: r) =>
    match r.span Char.isDigit with
    | (number@(_ :: _), []) | (number@(_ :: _), ['*']) => some (base, some number)
    | _ => none
  | _ => none

def partNumber (digits : List Char) : Except Fault Nat :=
  if digits.length > maxDigits then .error (.integerDigits digits.length)
  else .ok (Numeral.value digits)

namespace Part

def textBefore (a b : Part) : Bool :=
  let s : Text := a.value.map CodePoint.ofChar
  let t : Text := b.value.map CodePoint.ofChar
  if s = t then !a.escaped && b.escaped else Text.lt s t

/-- Parts go by number, then by value; a part without a number has no place among numbered ones. -/
def before (a b : Part) : Except Fault Bool :=
  match a.number, b.number with
  | some m, some n => .ok (m < n || (m = n && a.textBefore b))
  | none, none => .ok (a.textBefore b)
  | some _, none => .error (.notOrdered .int .null)
  | none, some _ => .error (.notOrdered .null .int)

end Part

/-- A value as it was meant; one with escapes may name its character set. -/
inductive Content where
  | plain (value : List Char)
  | extended (charset : List Char) (value : List Char)

def Content.ofEscaped (s : List Char) : Content :=
  match s.span (· != '\'') with
  | (charset, _ :: r) => match r.span (· != '\'') with
    | (_, _ :: value) => .extended charset value
    | _ => .extended [] s
  | _ => .extended [] s

def Content.ofParts (parts : List Part) : Except Fault Content := do
  let parts ← RunMergeSort.sort Part.before parts
  let value := parts.flatMap fun p => if p.escaped then unpercent p.value else p.value
  return if parts.any (·.escaped) then .ofEscaped value else .plain value

/-- Whole parameters, and the parts of the others by name, a name at its first place. -/
structure Sorted where
  whole : List (List Char × Content)
  parts : List (List Char × List Part)

def Sorted.addPart (s : Sorted) (name : List Char) (p : Part) : Sorted :=
  if s.parts.any (·.1 = name) then
    { s with parts := s.parts.map fun e => if e.1 = name then (name, e.2 ++ [p]) else e }
  else { s with parts := s.parts ++ [(name, [p])] }

def Sorted.add (s : Sorted) (p : Parameter) : Except Fault Sorted :=
  match partName? p.name with
  | none => .ok { s with whole := s.whole ++ [(p.name, .plain (unquote p.value))] }
  | some (name, digits) => do
    let number ← digits.mapM partNumber
    return s.addPart name ⟨number, unquote p.value, p.name.getLast? = some '*'⟩

/-- The parameters of a media type. The media type itself counts as the first, and no part is looked
for there; values put together from parts come last. -/
def parameters (mediaType : List Char) : Except Fault (List (List Char × Content)) :=
  match (split false [] mediaType).map Parameter.ofPiece with
  | [] => .ok []
  | first :: rest => do
    let sorted ← rest.foldlM Sorted.add ⟨[(first.name, .plain (unquote first.value))], []⟩
    let joined ← sorted.parts.mapM fun e => return (e.1, ← Content.ofParts e.2)
    return sorted.whole ++ joined

def charset? (mediaType : List Char) : Except Fault (Option Content) := do
  let found := (← parameters mediaType).find? fun e => e.1.map Char.toLower = "charset".toList
  return found.map Prod.snd

end RelayClient.MediaType
