import RelayClient.Binary64

/-!
# Loosely typed values

Callers may put any value into a field of a request, and servicers answer with any JSON document.
An object keeps its entries in the order in which their keys first came.
-/
namespace RelayClient

abbrev Bytes := List UInt8

inductive Value where
  | null
  | bool (b : Bool)
  | int (n : Int)
  | float (x : Binary64)
  | text (t : Text)
  | bytes (b : Bytes)
  | array (items : List Value)
  | tuple (items : List Value)
  | object (entries : List (Value × Value))

abbrev Entries := List (Value × Value)

/-- The kinds of value, as faults name them. -/
inductive Kind where
  | null | bool | int | float | text | bytes | array | tuple | object
  deriving DecidableEq

def Kind.name : Kind → String
  | null => "NoneType"
  | bool => "bool"
  | int => "int"
  | float => "float"
  | text => "str"
  | bytes => "bytes"
  | array => "list"
  | tuple => "tuple"
  | object => "dict"

namespace Value

instance : Inhabited Value := ⟨null⟩

instance : Coe String Value := ⟨fun s => text (Text.ofString s)⟩

def kind : Value → Kind
  | null => .null
  | bool _ => .bool
  | int _ => .int
  | float _ => .float
  | text _ => .text
  | bytes _ => .bytes
  | array _ => .array
  | tuple _ => .tuple
  | object _ => .object

/-- Absent, zero and empty values count as false. -/
def isTruthy : Value → Bool
  | null => false
  | bool b => b
  | int n => n != 0
  | float x => !x.isZero
  | text t => !t.isEmpty
  | bytes b => !b.isEmpty
  | array items => !items.isEmpty
  | tuple items => !items.isEmpty
  | object entries => !entries.isEmpty

/-- Numbers, among which the booleans count as one and zero. -/
inductive Number where
  | ratio (num : Int) (den : Nat)
  | infinite (negative : Bool)
  | nan

def number? : Value → Option Number
  | bool b => some (.ratio b.toInt 1)
  | int n => some (.ratio n 1)
  | float (.infinite s) => some (.infinite s)
  | float x => some (match x.ratio? with
    | some (n, d) => .ratio n d
    | none => .nan)
  | _ => none

def Number.eq : Number → Number → Bool
  | .ratio a b, .ratio c d => a * d == c * b
  | .infinite s, .infinite t => s == t
  | _, _ => false

def Number.lt : Number → Number → Bool
  | .ratio a b, .ratio c d => a * d < c * b
  | .ratio _ _, .infinite s => !s
  | .infinite s, .ratio _ _ => s
  | .infinite s, .infinite t => s && !t
  | _, _ => false

mutual

/-- Equality as a lookup sees it: numbers by value, objects whatever the order of their entries. -/
def same : Value → Value → Bool
  | null, null => true
  | text s, text t => s == t
  | bytes a, bytes b => a == b
  | array a, array b => sameItems a b
  | tuple a, tuple b => sameItems a b
  | object a, object b => a.length == b.length && sameEntries a b
  | v, w => match v.number?, w.number? with
    | some x, some y => x.eq y
    | _, _ => false

def sameItems : List Value → List Value → Bool
  | [], [] => true
  | v :: r, w :: s => same v w && sameItems r s
  | _, _ => false

/-- Every entry of the first list has an equal one in the second. -/
def sameEntries : List (Value × Value) → Entries → Bool
  | [], _ => true
  | (k, v) :: r, b => b.any (fun e => same k e.1 && same v e.2) && sameEntries r b

end

end Value

namespace Entries

/-- The value under a text key. -/
def value? (key : String) : Entries → Option Value
  | [] => none
  | (.text k, v) :: r => if k = Text.ofString key then some v else value? key r
  | _ :: r => value? key r

/-- Sets a key: a new one comes last, a known one keeps its place and its first spelling. -/
def set (key value : Value) : Entries → Entries
  | [] => [(key, value)]
  | (k, v) :: r => if k.same key then (k, value) :: r else (k, v) :: set key value r

/-- The entries that remain when pairs are set one after the other. -/
def ofPairs (pairs : List (Value × Value)) : Entries :=
  pairs.foldl (fun es p => es.set p.1 p.2) []

end Entries

/-- An object with text keys, in the order given. -/
def Value.record (fields : List (String × Value)) : Value :=
  .object (fields.map fun f => (.text (Text.ofString f.1), f.2))

end RelayClient
