import RelayClient.Conversion
import RelayClient.KeyOrder

/-!
# Maps in key order

An object is sorted by its keys. A sequence counts as a map as well if its members are positions in
it: each of them leads to what stands there.
-/
namespace RelayClient

/-- A map with its keys in order; an absent map stays absent. -/
def sortedMap : Option Entries → Except Fault Value
  | none => .ok .null
  | some es => return .object (← es.sorted)

namespace Value

/-- The member of a sequence at a position; a negative one counts from the end. -/
def memberAt (v : Value) (position : Value) : Except Fault Value := do
  let members ← v.elements
  match position with
  | bool b => pick members b.toInt
  | int n => pick members n
  | p => throw (.notPosition v.kind p.kind)
where
  pick (members : List Value) (n : Int) : Except Fault Value :=
    if n < -(1 <<< 63) ∨ 1 <<< 63 ≤ n then .error .positionTooLarge
    else
      let i := if n < 0 then n + members.length else n
      match if i < 0 then none else members[i.toNat]? with
      | some member => .ok member
      | none => .error (.noPosition v.kind)

/-- The map that a value stands for, with its keys in order. -/
def sortedMap : Value → Except Fault Value
  | null => RelayClient.sortedMap none
  | object es => RelayClient.sortedMap (some es)
  | v => do
    let keys ← Entries.sorted ((← v.elements).map (·, null))
    let pairs ← keys.mapM fun e => return (e.1, ← v.memberAt e.1)
    return object (Entries.ofPairs pairs)

end Value
end RelayClient
