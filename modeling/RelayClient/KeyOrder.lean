import RelayClient.Fault
import RelayClient.RunMergeSort

/-!
# Objects in key order

Numbers, texts, byte strings and sequences have an order among their own kind only. The first two
keys without an order that the sorting meets are the ones reported.
-/
namespace RelayClient

namespace Value

def bytesLt : Bytes → Bytes → Bool
  | _, [] => false
  | [], _ :: _ => true
  | a :: r, b :: s => a < b || (a == b && bytesLt r s)

mutual

/-- Whether the first value comes strictly before the second. -/
def lt : Value → Value → Except Fault Bool
  | text s, text t => .ok (s.lt t)
  | bytes a, bytes b => .ok (bytesLt a b)
  | array a, array b => itemsLt a b
  | tuple a, tuple b => itemsLt a b
  | v, w => match v.number?, w.number? with
    | some x, some y => .ok (x.lt y)
    | _, _ => .error (.notOrdered v.kind w.kind)

/-- Sequences compare at their first difference, a proper beginning coming first. -/
def itemsLt : List Value → List Value → Except Fault Bool
  | _, [] => .ok false
  | [], _ :: _ => .ok true
  | v :: r, w :: s => if v.same w then itemsLt r s else lt v w

end

end Value

namespace Entries

/-- Whether the first of two text keys does not come after the second. -/
def textOrder : Value × Value → Value × Value → Bool
  | (.text s, _), (.text t, _) => !t.lt s
  | _, _ => true

/-- Entries with their keys in order. Texts can always be compared, so that any sorting will do. -/
def sorted (es : Entries) : Except Fault Entries :=
  if es.all fun e => e.1.kind = .text then .ok (es.mergeSort textOrder)
  else RunMergeSort.sort (fun a b => a.1.lt b.1) es

end Entries

end RelayClient
