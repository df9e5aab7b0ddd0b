import RelayClient.Gallop

/-!
# Merging two runs

The shorter run is set aside, and the longer one makes room for it: elements are taken from the
ends where the two runs begin to overlap, one at a time or, once a run has been ahead often enough,
by the stretch.
-/
namespace RelayClient

/-- Two runs of which some elements, the last one first, are merged. -/
structure Merging (α : Type) where
  merged : List α
  short : List α
  long : List α

namespace Merging

variable {α ε : Type}

def whole (m : Merging α) : List α := m.merged.reverse ++ m.long ++ m.short

/-- A single element that was set aside comes after all of the longer run. -/
def isDone (m : Merging α) : Bool := m.short.length ≤ 1 || m.long.isEmpty

def takeShort (m : Merging α) (n : Nat) : Merging α :=
  ⟨(m.short.take n).reverse ++ m.merged, m.short.drop n, m.long⟩

def takeLong (m : Merging α) (n : Nat) : Merging α :=
  ⟨(m.long.take n).reverse ++ m.merged, m.short, m.long.drop n⟩

/-- How the next elements are found: singly, after so many in a row from either run, or by the stretch. -/
inductive Pace where
  | singly (short long : Nat)
  | stretches

/-- A stretch that makes it worth while to look for another one. -/
def stretchLength : Nat := 7

variable (side : Side) (before : α → α → Except ε Bool)

def stretchShort (m : Merging α) : Except ε (Merging α × Nat) :=
  match m.isDone, m.long with
  | false, y :: _ => do
    let n ← Gallop.count side (fun x => return !(← before y x)) m.short
    let m := m.takeShort n
    return (if m.isDone then m else m.takeLong 1, n)
  | _, _ => .ok (m, 0)

def stretchLong (m : Merging α) : Except ε (Merging α × Nat) :=
  match m.isDone, m.short with
  | false, x :: _ => do
    let n ← Gallop.count side (fun y => before y x) m.long
    let m := m.takeLong n
    return (if m.isDone then m else m.takeShort 1, n)
  | _, _ => .ok (m, 0)

def stretches (m : Merging α) : Except ε (Merging α × Nat) := do
  match side with
  | .front =>
    let (m, a) ← stretchShort side before m
    let (m, b) ← stretchLong side before m
    return (m, max a b)
  | .back =>
    let (m, a) ← stretchLong side before m
    let (m, b) ← stretchShort side before m
    return (m, max a b)

/-- Merges to the end. `patience` is the number of elements in a row that changes the pace; it is
returned as it came out. -/
def run : Nat → Nat → Pace → Merging α → Except ε (List α × Nat)
  | 0, patience, _, m => .ok (m.whole, patience)
  | fuel + 1, patience, pace, m =>
    if m.isDone then .ok (m.whole, patience)
    else match pace, m.short, m.long with
      | .singly a b, x :: _, y :: _ => do
        if ← before y x then
          run fuel patience (if b + 1 ≥ patience then .stretches else .singly 0 (b + 1)) (m.takeLong 1)
        else
          run fuel patience (if a + 1 ≥ patience then .stretches else .singly (a + 1) 0) (m.takeShort 1)
      | _, _, _ => do
        let (m', n) ← stretches side before m
        if m'.isDone then return (m'.whole, patience)
        else if n ≥ stretchLength then run fuel (max 1 (patience - 1)) .stretches m'
        else run fuel (patience + 1) (.singly 0 0) m'

end Merging

variable {α ε : Type} (less : α → α → Except ε Bool)

/-- Merges two adjacent runs, of which neither is empty, from the side of the shorter one. -/
def mergeRuns (patience : Nat) (left right : List α) : Except ε (List α × Nat) :=
  match right with
  | [] => .ok (left, patience)
  | y :: _ => do
    let settled ← Gallop.count .front (fun x => return !(← less y x)) left
    let a := left.drop settled
    match a.getLast? with
    | none => return (left ++ right, patience)
    | some x =>
      let trailing ← Gallop.count .back (fun z => return !(← less z x)) right.reverse
      let b := right.take (right.length - trailing)
      let tail := right.drop (right.length - trailing)
      if b.isEmpty then return (left ++ right, patience)
      let fuel := a.length + b.length
      if a.length ≤ b.length then
        let start : Merging α := ⟨[], a, b⟩
        let (merged, patience) ← Merging.run .front less fuel patience (.singly 0 0) (start.takeLong 1)
        return (left.take settled ++ merged ++ tail, patience)
      else
        let start : Merging α := ⟨[], b.reverse, a.reverse⟩
        let (merged, patience) ← Merging.run .back (fun x y => less y x) fuel patience (.singly 0 0)
          (start.takeLong 1)
        return (left.take settled ++ merged.reverse ++ tail, patience)

end RelayClient
