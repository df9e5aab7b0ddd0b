import RelayClient.Binary64

/-!
# Decimal text of binary64 numbers

A number is written with the fewest digits that read back as the number itself, and of those with
the nearest ones.
-/
namespace RelayClient.Binary64

def leastScale (num den : Nat) : Nat → Nat → Nat
  | 0, j => j
  | fuel + 1, j => if den ≤ num * Nat.pow 10 j then j else leastScale num den fuel (j + 1)

/-- The decimal exponent of a positive ratio: `10 ^ k ≤ num / den < 10 ^ (k + 1)`. -/
def decimalExponent (num den : Nat) : Int :=
  if den ≤ num then ((toString (num / den)).length : Int) - 1
  else -(leastScale num den 400 1 : Int)

/-- A ratio on the decimal grid of step `10 ^ exponent`, rounded down, with twice the remainder
and the divisor. -/
def decimalFloor (num den : Nat) (exponent : Int) : Nat × Nat × Nat :=
  let n := if 0 ≤ exponent then num else num * Nat.pow 10 (-exponent).toNat
  let d := if 0 ≤ exponent then den * Nat.pow 10 exponent.toNat else den
  (n / d, 2 * (n % d), d)

/-- The digits and exponent of the shortest decimal that reads back as `x`, whose absolute value
is `num / den`; grids of `n`, `n + 1`, … digits are tried in turn. -/
def shortestFrom (x : Binary64) (num den : Nat) (k : Int) : Nat → Nat → Nat × Int
  | 0, n => (0, n)
  | fuel + 1, n =>
    let e := k - n + 1
    let (low, twice, d) := decimalFloor num den e
    let lowHits := ofDecimal false low e = x
    let highHits := ofDecimal false (low + 1) e = x
    if lowHits ∧ (¬ highHits ∨ twice < d ∨ twice = d ∧ low % 2 = 0) then (low, e)
    else if highHits then (low + 1, e)
    else shortestFrom x num den k fuel (n + 1)

def stripZeros : Nat → Nat → Int → Nat × Int
  | 0, n, e => (n, e)
  | fuel + 1, n, e => if n % 10 = 0 ∧ n ≠ 0 then stripZeros fuel (n / 10) (e + 1) else (n, e)

/-- How the digits of a binary64 number are laid out. -/
structure Layout where
  /-- Decimal exponents in `lowest ≤ k < limit` are written positionally. -/
  lowest : Int
  limit : Int
  /-- The least number of digits of a written exponent. -/
  exponentDigits : Nat
  nanText : String
  infinityText : String

/-- Positional from 10⁻⁴ up to below 10¹⁶ and then always with a fraction; otherwise a signed
exponent of at least two digits. -/
def plain : Layout where
  lowest := -4
  limit := 16
  exponentDigits := 2
  nanText := "nan"
  infinityText := "inf"

/-- The point stands after the first `point` digits, with zeros filled in where digits are missing. -/
def positional (digits : List Char) (point : Int) : List Char :=
  if point ≤ 0 then '0' :: '.' :: (List.replicate (-point).toNat '0' ++ digits)
  else
    let whole := digits.take point.toNat
    let fraction := digits.drop point.toNat
    whole ++ List.replicate (point.toNat - whole.length) '0' ++
      '.' :: (if fraction.isEmpty then ['0'] else fraction)

def scientific (w : Nat) (digits : List Char) (k : Int) : List Char :=
  let size := toString k.natAbs
  let mantissa := match digits with
    | d :: e :: r => d :: '.' :: e :: r
    | short => short
  mantissa ++ 'e' :: (if k < 0 then '-' else '+') ::
    (List.replicate (w - size.length) '0' ++ size.toList)

def unsigned (layout : Layout) (m : Nat) (e : Int) : List Char :=
  if m = 0 then ['0', '.', '0']
  else
    let (num, den) : Nat × Nat := if 0 ≤ e then (m <<< e.toNat, 1) else (m, 1 <<< (-e).toNat)
    let k := decimalExponent num den
    let (n, x) := shortestFrom (finite false m e) num den k 17 1
    let (n, x) := stripZeros 20 n x
    let digits := (toString n).toList
    let k := x + digits.length - 1
    if layout.lowest ≤ k ∧ k < layout.limit then positional digits (k + 1)
    else scientific layout.exponentDigits digits k

def write (layout : Layout) : Binary64 → Text
  | finite s m e => (if s then '-' :: unsigned layout m e else unsigned layout m e).map .ofChar
  | infinite s => Text.ofString (if s then "-" ++ layout.infinityText else layout.infinityText)
  | nan => Text.ofString layout.nanText

def toText (x : Binary64) : Text := x.write plain

end RelayClient.Binary64
