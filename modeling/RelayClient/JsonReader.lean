import RelayClient.Fault
import RelayClient.Numeral
import RelayClient.Hex

/-!
# Reading JSON text

Beyond the standard the numbers `NaN`, `Infinity` and `-Infinity` are read; a lone surrogate escape
is kept; of entries with equal keys the last one counts. Integers have at most 4300 digits.
-/
namespace RelayClient.Json

def isBlank (c : CodePoint) : Bool := c = ' ' || c = '\t' || c = '\n' || c = '\r'

def skipBlank (t : Text) : Text := t.dropWhile isBlank

def behind? (word : String) (t : Text) : Option Text :=
  if (Text.ofString word).isPrefixOf t then some (t.drop word.length) else none

/-- A character of a string, as itself or as an escape of four digits. -/
inductive Piece where
  | plain (c : CodePoint)
  | escaped (c : CodePoint)

def shortEscape? (c : CodePoint) : Option CodePoint :=
  if c = '"' || c = '\\' || c = '/' then some c
  else if c = 'b' then some (CodePoint.ofNat 0x8)
  else if c = 'f' then some (CodePoint.ofNat 0xC)
  else if c = 'n' then some '\n'
  else if c = 'r' then some '\r'
  else if c = 't' then some '\t'
  else none

def quad? (a b c d : CodePoint) : Option CodePoint := do
  let a ← Hex.digitValue? a
  let b ← Hex.digitValue? b
  let c ← Hex.digitValue? c
  let d ← Hex.digitValue? d
  return CodePoint.ofNat (((a * 16 + b) * 16 + c) * 16 + d)

/-- The characters of a string up to its closing quote, and what follows the quote. Control
characters stand in no string. -/
def scanString : Text → Option (List Piece × Text)
  | [] => none
  | c :: r =>
    if c = '"' then some ([], r)
    else if c = '\\' then
      match r with
      | [] => none
      | e :: r =>
        if e = 'u' then
          match r with
          | h₁ :: h₂ :: h₃ :: h₄ :: r => do
            let u ← quad? h₁ h₂ h₃ h₄
            let (us, rest) ← scanString r
            return (.escaped u :: us, rest)
          | _ => none
        else do
          let u ← shortEscape? e
          let (us, rest) ← scanString r
          return (.plain u :: us, rest)
    else if c.val < 0x20 then none
    else do
      let (us, rest) ← scanString r
      return (.plain c :: us, rest)

/-- Joins the surrogate pairs that are written as two escapes. -/
def joinPairs : List Piece → Text
  | [] => []
  | [.plain c] | [.escaped c] => [c]
  | .escaped c :: .escaped d :: r =>
    if c.isHighSurrogate && d.isLowSurrogate then c.joinSurrogates d :: joinPairs r
    else c :: joinPairs (.escaped d :: r)
  | .escaped c :: u :: r => c :: joinPairs (u :: r)
  | .plain c :: u :: r => c :: joinPairs (u :: r)

def readString (t : Text) : Option (Text × Text) := do
  let (units, rest) ← scanString t
  return (joinPairs units, rest)

def digits (t : Text) : List Char := t.map fun c => Char.ofNat c.val

/-- The exponent of a number with its sign, if a whole one is there. -/
def exponentPart (t : Text) : Option (Int × Text) :=
  match t with
  | [] => none
  | e :: r =>
    if e = 'e' || e = 'E' then
      let (negative, r) : Bool × Text := match r with
        | s :: q => if s = '-' then (true, q) else if s = '+' then (false, q) else (false, r)
        | [] => (false, [])
      let ds := r.takeWhile (·.isDigit)
      if ds.isEmpty then none
      else
        let n : Int := Numeral.value (digits ds)
        some (if negative then -n else n, r.dropWhile (·.isDigit))
    else none

/-- The digits behind a decimal point, if the point and one digit are there. -/
def fractionPart (t : Text) : Option (Text × Text) :=
  match t with
  | [] => none
  | p :: r =>
    if p = '.' && !(r.takeWhile (·.isDigit)).isEmpty then
      some (r.takeWhile (·.isDigit), r.dropWhile (·.isDigit))
    else none

/-- The digits before the point: a zero alone, or digits that do not begin with zero. -/
def wholePart (t : Text) : Option (Text × Text) :=
  match t with
  | [] => none
  | c :: r =>
    if c = '0' then some ([c], r)
    else if c.isDigit then some (c :: r.takeWhile (·.isDigit), r.dropWhile (·.isDigit))
    else none

/-- An unsigned number, to which the sign in front of it is given. -/
def readNumber (negative : Bool) (t : Text) : Option (Value × Text) := do
  let (whole, rest) ← wholePart t
  match fractionPart rest, exponentPart rest with
  | none, none =>
    if whole.length > maxDigits then none
    else
      let n : Int := Numeral.value (digits whole)
      some (.int (if negative then -n else n), rest)
  | none, some (e, rest) =>
    some (.float (Binary64.ofDecimal negative (Numeral.value (digits whole)) e), rest)
  | some (fraction, rest), _ =>
    let (e, rest) := (exponentPart rest).getD (0, rest)
    some (.float (Binary64.ofDecimal negative (Numeral.value (digits (whole ++ fraction)))
      (e - fraction.length)), rest)

def readAtom (t : Text) : Option (Value × Text) :=
  match t with
  | [] => none
  | c :: r =>
    if c = 'n' then (behind? "ull" r).map (.null, ·)
    else if c = 't' then (behind? "rue" r).map (.bool true, ·)
    else if c = 'f' then (behind? "alse" r).map (.bool false, ·)
    else if c = 'N' then (behind? "aN" r).map (.float .nan, ·)
    else if c = 'I' then (behind? "nfinity" r).map (.float (.infinite false), ·)
    else if c = '-' then
      match behind? "Infinity" r with
      | some rest => some (.float (.infinite true), rest)
      | none => readNumber true r
    else readNumber false t

mutual

/-- A value at the beginning of a text, and what follows it. -/
def readValue : Nat → Text → Option (Value × Text)
  | 0, _ => none
  | _, [] => none
  | fuel + 1, c :: r =>
    if c = '"' then do
      let (t, rest) ← readString r
      return (.text t, rest)
    else if c = '[' then
      match skipBlank r with
      | [] => none
      | d :: q => if d = ']' then some (.array [], q) else do
        let (v, rest) ← readValue fuel (d :: q)
        let (vs, rest) ← readItems fuel (skipBlank rest)
        return (.array (v :: vs), rest)
    else if c = '{' then
      match skipBlank r with
      | [] => none
      | d :: q => if d = '}' then some (.object [], q) else do
        let (e, rest) ← readEntry fuel (d :: q)
        let (es, rest) ← readEntries fuel (skipBlank rest)
        return (.object (Entries.ofPairs (e :: es)), rest)
    else readAtom (c :: r)

def readItems : Nat → Text → Option (List Value × Text)
  | 0, _ => none
  | _, [] => none
  | fuel + 1, c :: r =>
    if c = ']' then some ([], r)
    else if c = ',' then do
      let (v, rest) ← readValue fuel (skipBlank r)
      let (vs, rest) ← readItems fuel (skipBlank rest)
      return (v :: vs, rest)
    else none

def readEntries : Nat → Text → Option (Entries × Text)
  | 0, _ => none
  | _, [] => none
  | fuel + 1, c :: r =>
    if c = '}' then some ([], r)
    else if c = ',' then do
      let (e, rest) ← readEntry fuel (skipBlank r)
      let (es, rest) ← readEntries fuel (skipBlank rest)
      return (e :: es, rest)
    else none

def readEntry : Nat → Text → Option ((Value × Value) × Text)
  | 0, _ => none
  | _, [] => none
  | fuel + 1, c :: r =>
    if c = '"' then do
      let (k, rest) ← readString r
      match skipBlank rest with
      | [] => none
      | d :: q =>
        if d = ':' then (readValue fuel (skipBlank q)).map fun p => ((.text k, p.1), p.2)
        else none
    else none

end

/-- The value that a whole text writes, blanks around it aside. Each step down uses up a character,
so the length of the text bounds their number. -/
def read? (t : Text) : Option Value := do
  let (v, rest) ← readValue (t.length + 1) (skipBlank t)
  if (skipBlank rest).isEmpty then return v else none

end RelayClient.Json
