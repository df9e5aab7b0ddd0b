import RelayClient.WhiteSpace
import RelayClient.DecimalDigit
import RelayClient.Binary64

/-!
# Numerals in free text

A numeral may be padded with white space, signed, written in the decimal digits of any script, and
its digits may be grouped by single underscores.
-/
namespace RelayClient.Numeral

def isDigit (c : Char) : Bool := '0' ≤ c && c ≤ '9'

def isBlank (c : Char) : Bool := c = ' ' || '\t' ≤ c && c ≤ '\r'

/-- A numeral in ASCII: foreign digits and white space are replaced by their ASCII counterparts and
what else lies beyond ASCII by a question mark, which no numeral holds. -/
def ascii (t : Text) : List Char :=
  t.map fun c =>
    if c.val < 0x7F then Char.ofNat c.val
    else if c.isWhiteSpace then ' '
    else match c.decimalDigit? with
      | some d => Char.ofNat (0x30 + d)
      | none => '?'

def strip (s : List Char) : List Char :=
  ((s.dropWhile isBlank).reverse.dropWhile isBlank).reverse

def value (digits : List Char) : Nat := digits.foldl (fun n c => 10 * n + (c.toNat - 0x30)) 0

def sign : List Char → Bool × List Char
  | '-' :: r => (true, r)
  | '+' :: r => (false, r)
  | r => (false, r)

/-- The digits of a row whose groups are joined by single underscores. -/
def ungroup (afterDigit : Bool) : List Char → Option (List Char)
  | [] => if afterDigit then some [] else none
  | c :: r =>
    if c = '_' then (if afterDigit then ungroup false r else none)
    else if isDigit c then (ungroup true r).map (c :: ·)
    else none

/-- A numeral for an integer at the start of a text. -/
structure Integer where
  negative : Bool
  digits : List Char
  /-- What follows the numeral. -/
  rest : List Char

def Integer.value (n : Integer) : Int :=
  if n.negative then -(Numeral.value n.digits : Int) else Numeral.value n.digits

def isGrouped (c : Char) : Bool := isDigit c || c = '_'

def integer? (t : Text) : Option Integer :=
  let (negative, r) := sign (strip (ascii t))
  (ungroup false (r.takeWhile isGrouped)).map (⟨negative, ·, r.dropWhile isGrouped⟩)

/-- Drops the underscores that stand between two digits and refuses any other. -/
def dropGrouping (previous : Char) : List Char → Option (List Char)
  | [] => if previous = '_' then none else some []
  | c :: r =>
    if c = '_' then (if isDigit previous then dropGrouping c r else none)
    else if previous = '_' && !isDigit c then none
    else (dropGrouping c r).map (c :: ·)

/-- What follows the mantissa: nothing, or an exponent. -/
def exponent? : List Char → Option Int
  | [] => some 0
  | c :: r =>
    if c = 'e' || c = 'E' then
      let (negative, digits) := sign r
      if !digits.isEmpty && digits.all isDigit then
        some (if negative then -(value digits : Int) else value digits)
      else none
    else none

/-- An unsigned decimal numeral: digits on at least one side of an optional point, and an exponent. -/
def decimal? (negative : Bool) (s : List Char) : Option Binary64 :=
  let whole := s.takeWhile isDigit
  let rest := s.dropWhile isDigit
  let fraction := match rest with
    | '.' :: r => r.takeWhile isDigit
    | _ => []
  let tail := match rest with
    | '.' :: r => r.dropWhile isDigit
    | r => r
  if whole.isEmpty && fraction.isEmpty then none
  else (exponent? tail).map fun e =>
    Binary64.ofDecimal negative (value (whole ++ fraction)) (e - fraction.length)

/-- A numeral for a binary64 number; infinity and not-a-number have names, in any case. -/
def float? (t : Text) : Option Binary64 :=
  (dropGrouping ' ' (strip (ascii t))).bind fun s =>
    let (negative, r) := sign s
    let word := String.ofList (r.map Char.toLower)
    if word = "inf" || word = "infinity" then some (.infinite negative)
    else if word = "nan" then some .nan
    else decimal? negative r

end RelayClient.Numeral
