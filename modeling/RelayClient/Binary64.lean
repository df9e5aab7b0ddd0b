import RelayClient.Text

/-!
# Binary floating-point numbers of 64 bits

The numbers are kept as exact dyadic rationals, so rounding, comparison and printing are integer
arithmetic.
-/
namespace RelayClient

/-- A binary64 datum. A finite one is `± significand * 2 ^ exponent`, with
`2 ^ 52 ≤ significand < 2 ^ 53`, or with exponent -1074 and a smaller significand. -/
inductive Binary64 where
  | finite (negative : Bool) (significand : Nat) (exponent : Int)
  | infinite (negative : Bool)
  | nan
  deriving DecidableEq

namespace Binary64

/-- The quotient rounded to the nearest integer, a tie to the even one. -/
def roundDiv (num den : Nat) : Nat :=
  let q := num / den
  let r := num % den
  if 2 * r < den then q else if den < 2 * r then q + 1 else q + q % 2

/-- `num / den` on the grid of step `2 ^ exponent`. -/
def onGrid (num den : Nat) (exponent : Int) : Nat :=
  if 0 ≤ exponent then roundDiv num (den <<< exponent.toNat)
  else roundDiv (num <<< (-exponent).toNat) den

/-- The grid of a binary64 number of the size of `num / den`. -/
def gridExponent (num den : Nat) : Int :=
  let e : Int := (num.log2 : Int) - (den.log2 : Int) - 52
  let below : Bool := if 0 ≤ e then num < den <<< (52 + e.toNat)
    else num <<< (-e).toNat < den <<< 52
  max (if below then e - 1 else e) (-1074)

def ofRatio (negative : Bool) (num den : Nat) : Binary64 :=
  if num = 0 then finite negative 0 (-1074)
  else
    let e := gridExponent num den
    let m := onGrid num den e
    let (m, e) := if m = 1 <<< 53 then (1 <<< 52, e + 1) else (m, e)
    if e > 971 then infinite negative else finite negative m e

/-- The binary64 number nearest to `± digits * 10 ^ exponent`. Exponents past the range are cut
short before any power is computed. -/
def ofDecimal (negative : Bool) (digits : Nat) (exponent : Int) : Binary64 :=
  let size := (digits.log2 : Int) * 3 / 10 + exponent
  if digits = 0 then finite negative 0 (-1074)
  else if size > 400 then infinite negative
  else if size < -500 - (digits.log2 : Int) / 20 then finite negative 0 (-1074)
  else if 0 ≤ exponent then ofRatio negative (digits * Nat.pow 10 exponent.toNat) 1
  else ofRatio negative digits (Nat.pow 10 (-exponent).toNat)

def isFinite : Binary64 → Bool
  | finite .. => true
  | _ => false

def ratio? : Binary64 → Option (Int × Nat)
  | finite s m e =>
    let n : Int := if s then -m else m
    some (if 0 ≤ e then (n <<< e.toNat, 1) else (n, 1 <<< (-e).toNat))
  | _ => none

def truncate? (x : Binary64) : Option Int :=
  x.ratio?.map fun r => Int.tdiv r.1 r.2

def integer? (x : Binary64) : Option Int :=
  x.ratio?.bind fun r => if r.1 % r.2 = 0 then some (r.1 / r.2) else none

def isZero : Binary64 → Bool
  | finite _ m _ => m == 0
  | _ => false

end Binary64
end RelayClient
