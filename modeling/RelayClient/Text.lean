/-!
# Text as code points

Payloads, keys and messages may hold lone surrogates, which `Char` excludes, so text is a list of
code points of the whole range. Two adjacent surrogates stay two elements.
-/
namespace RelayClient

/-- A Unicode code point, surrogates included. -/
structure CodePoint where
  val : Nat
  isLt : val < 0x110000
  deriving DecidableEq

abbrev Text := List CodePoint

namespace CodePoint

def ofChar (c : Char) : CodePoint where
  val := c.toNat
  isLt := by
    have h := c.valid
    simp only [UInt32.isValidChar, Nat.isValidChar] at h
    simp only [Char.toNat]
    omega

instance : Coe Char CodePoint := ⟨ofChar⟩

/-- Values past the range become U+FFFD, the replacement character. -/
def ofNat (n : Nat) : CodePoint :=
  if h : n < 0x110000 then ⟨n, h⟩ else ⟨0xFFFD, by decide⟩

def replacement : CodePoint := ⟨0xFFFD, by decide⟩

def isHighSurrogate (c : CodePoint) : Bool := 0xD800 ≤ c.val && c.val ≤ 0xDBFF

def isLowSurrogate (c : CodePoint) : Bool := 0xDC00 ≤ c.val && c.val ≤ 0xDFFF

def isSurrogate (c : CodePoint) : Bool := 0xD800 ≤ c.val && c.val ≤ 0xDFFF

@[simp] theorem isSurrogate_ofChar (c : Char) : (ofChar c).isSurrogate = false := by
  have h := c.valid
  simp only [UInt32.isValidChar, Nat.isValidChar] at h
  rw [← Bool.not_eq_true, isSurrogate, Bool.and_eq_true, decide_eq_true_eq, decide_eq_true_eq]
  simp only [ofChar, Char.toNat]
  omega

/-- The supplementary code point that a high and a low surrogate spell together. -/
def joinSurrogates (high low : CodePoint) : CodePoint :=
  ofNat (0x10000 + (high.val - 0xD800) * 0x400 + (low.val - 0xDC00))

def isDigit (c : CodePoint) : Bool := 0x30 ≤ c.val && c.val ≤ 0x39

def digit (n : Nat) : CodePoint := ofNat (0x30 + n)

end CodePoint

namespace Text

def ofString (s : String) : Text := s.toList.map CodePoint.ofChar

instance : Coe String Text := ⟨ofString⟩

/-- Text with every surrogate dropped. -/
def toChars (t : Text) : List Char := (t.filter (!·.isSurrogate)).map (Char.ofNat ·.val)

def hasSurrogate (t : Text) : Bool := t.any (·.isSurrogate)

@[simp] theorem hasSurrogate_nil : hasSurrogate [] = false := rfl

@[simp] theorem hasSurrogate_cons (c : CodePoint) (t : Text) :
    hasSurrogate (c :: t) = (c.isSurrogate || t.hasSurrogate) := rfl

@[simp] theorem hasSurrogate_append (s t : Text) :
    hasSurrogate (s ++ t) = (s.hasSurrogate || t.hasSurrogate) := List.any_append

@[simp] theorem hasSurrogate_map_ofChar (cs : List Char) :
    hasSurrogate (cs.map CodePoint.ofChar) = false := by
  induction cs with
  | nil => rfl
  | cons c cs ih => rw [List.map_cons, hasSurrogate_cons, CodePoint.isSurrogate_ofChar, ih]; rfl

@[simp] theorem hasSurrogate_ofString (s : String) : (ofString s).hasSurrogate = false :=
  hasSurrogate_map_ofChar s.toList

/-- Characters that are replaced, each by a text that holds a surrogate exactly if it is one. -/
theorem hasSurrogate_flatMap {f : CodePoint → Text}
    (h : ∀ c, (f c).hasSurrogate = c.isSurrogate) (t : Text) :
    hasSurrogate (t.flatMap f) = t.hasSurrogate := by
  induction t with
  | nil => rfl
  | cons c t ih => rw [List.flatMap_cons, hasSurrogate_append, h, ih, hasSurrogate_cons]

/-- Order by code point, a proper beginning first. -/
def lt : Text → Text → Bool
  | _, [] => false
  | [], _ :: _ => true
  | a :: s, b :: t => a.val < b.val || (a.val == b.val && lt s t)

def ofNat (n : Nat) : Text := ofString (toString n)

def ofInt (n : Int) : Text := if n < 0 then '-' :: ofNat n.natAbs else ofNat n.natAbs

/-- Text between two characters. -/
def between (opening closing : Char) (t : Text) : Text :=
  CodePoint.ofChar opening :: (t ++ [CodePoint.ofChar closing])

/-- The text between the given separator's occurrences, written out with the separator. -/
def joined (separator : Text) : List Text → Text
  | [] => []
  | [t] => t
  | t :: u :: r => t ++ separator ++ joined separator (u :: r)

/-- Drops every occurrence of `c` at the end. -/
def dropTrailing (c : CodePoint) (t : Text) : Text := (t.reverse.dropWhile (· == c)).reverse

end Text
end RelayClient
