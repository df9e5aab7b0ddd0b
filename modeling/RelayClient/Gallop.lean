/-!
# Searching for the end of a beginning

The positions at which a test holds are taken to be the first ones. The search doubles its stride
until the test fails, then halves what is left; how it halves depends on the side it counts from.
-/
namespace RelayClient

/-- The end of a list that its positions are counted from. -/
inductive Side where
  | front | back
  deriving DecidableEq

/-- The middle of a range of positions, the lower one of the list if there are two. -/
def Side.middle : Side → Nat → Nat → Nat
  | front, low, high => (low + high) / 2
  | back, low, high => (low + high - 1) / 2

namespace Gallop

variable {ε : Type} (side : Side) (test : Nat → Except ε Bool)

/-- The first position from `low` on, and at most `high`, at which the test fails. -/
def halve : Nat → Nat → Nat → Except ε Nat
  | 0, low, _ => .ok low
  | fuel + 1, low, high =>
    if low < high then do
      let m := side.middle low high
      if ← test m then halve fuel (m + 1) high else halve fuel low m
    else .ok low

/-- Goes on from a position at which the test holds to `next`, and further in growing strides. -/
def stride (size : Nat) : Nat → Nat → Nat → Except ε Nat
  | 0, last, _ => .ok last
  | fuel + 1, last, next =>
    if next < size then do
      if ← test next then stride size fuel next (2 * next + 1)
      else halve side test size (last + 1) next
    else halve side test size (last + 1) size

def count {α : Type} (test : α → Except ε Bool) (xs : List α) : Except ε Nat := do
  let holds (i : Nat) : Except ε Bool := (xs[i]?).elim (.ok false) test
  if ← holds 0 then stride side holds xs.length xs.length 0 1 else return 0

end Gallop
end RelayClient
