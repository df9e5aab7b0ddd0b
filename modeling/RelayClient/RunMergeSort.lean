import RelayClient.RunMerge

/-!
# Sorting by natural runs

The list is cut into the runs it has, a falling one being turned round and a short one extended,
and neighbouring runs are merged in the order of the tree whose halves are most even. Which two
elements are compared depends on the outcomes of the comparisons before, so a comparison that fails
fails at a definite pair, and elements without an order still come out in a definite one.
-/
namespace RelayClient.RunMergeSort

variable {α ε : Type} (less : α → α → Except ε Bool)

def fallingRun (last : α) : List α → Except ε (List α × List α)
  | [] => .ok ([], [])
  | x :: r => do
    if ← less x last then
      let (run, rest) ← fallingRun x r
      return (x :: run, rest)
    else return ([], x :: r)

def risingRun (last : α) : List α → Except ε (List α × List α)
  | [] => .ok ([], [])
  | x :: r => do
    if ← less x last then return ([], x :: r)
    else
      let (run, rest) ← risingRun x r
      return (x :: run, rest)

/-- The ordered run at the beginning, a falling one turned round, and what follows it. -/
def leadingRun : List α → Except ε (List α × List α)
  | x :: y :: r => do
    if ← less y x then
      let (run, rest) ← fallingRun less y r
      return ((x :: y :: run).reverse, rest)
    else
      let (run, rest) ← risingRun less y r
      return (x :: y :: run, rest)
  | xs => .ok (xs, [])

/-- Inserts an element behind all that do not come after it, halving the ordered list in each step. -/
def place (x : α) : Nat → List α → Except ε (List α)
  | 0, xs => .ok (x :: xs)
  | fuel + 1, xs =>
    match xs.drop (xs.length / 2) with
    | [] => .ok [x]
    | middle :: after => do
      let before := xs.take (xs.length / 2)
      if ← less x middle then return (← place x fuel before) ++ middle :: after
      else return before ++ middle :: (← place x fuel after)

def placeAll (ordered : List α) : List α → Except ε (List α)
  | [] => .ok ordered
  | x :: r => do placeAll (← place less x (ordered.length + 1) ordered) r

/-- The least length of a run: the six leading binary digits of the size, rounded up. -/
def leastRun (size : Nat) : Nat :=
  if size < 64 then size else (size + (1 <<< (size.log2 - 5)) - 1) >>> (size.log2 - 5)

def runs (least : Nat) : Nat → List α → Except ε (List (List α))
  | _, [] => .ok []
  | 0, xs => .ok [xs]
  | fuel + 1, xs => do
    let (run, rest) ← leadingRun less xs
    let missing := least - run.length
    let run ← placeAll less run (rest.take missing)
    return run :: (← runs least fuel (rest.drop missing))

/-- The depth of the boundary between two runs: the first binary digit in which the positions of
their midpoints, in proportion to the whole size, differ. The midpoints come doubled. -/
def boundaryDepth (size : Nat) : Nat → Nat → Nat → Nat
  | 0, _, _ => 0
  | fuel + 1, left, right =>
    if left ≥ size then 1 + boundaryDepth size fuel (2 * (left - size)) (2 * (right - size))
    else if right ≥ size then 1
    else 1 + boundaryDepth size fuel (2 * left) (2 * right)

/-- A run that waits for its right neighbour, and the depth of the boundary between them. -/
structure Pending (α : Type) where
  depth : Nat
  run : List α

/-- Merges the newest run into the ones before it across all boundaries below the given depth. -/
def collapse (depth patience : Nat) (newest : List α) :
    List (Pending α) → Except ε (List α × List (Pending α) × Nat)
  | [] => .ok (newest, [], patience)
  | p :: stack =>
    if p.depth > depth then do
      let (merged, patience) ← mergeRuns less patience p.run newest
      collapse depth patience merged stack
    else .ok (newest, p :: stack, patience)

/-- Merges all that is left, the run before the last two first into the shorter of its neighbours. -/
def finish : Nat → Nat → List (List α) → Except ε (List α)
  | 0, _, stack => .ok stack.reverse.flatten
  | _, _, [] => .ok []
  | _, _, [run] => .ok run
  | _, patience, [c, b] => Prod.fst <$> mergeRuns less patience b c
  | fuel + 1, patience, c :: b :: a :: stack => do
    if a.length < c.length then
      let (merged, patience) ← mergeRuns less patience a b
      finish fuel patience (c :: merged :: stack)
    else
      let (merged, patience) ← mergeRuns less patience b c
      finish fuel patience (merged :: a :: stack)

/-- Merges runs one after the other; `start` is where the newest one begins. -/
def mergeAll (size : Nat) (start patience : Nat) (newest : List α) (stack : List (Pending α)) :
    List (List α) → Except ε (List α)
  | [] => finish less stack.length patience (newest :: stack.map Pending.run)
  | next :: rest => do
    let left := 2 * start + newest.length
    let depth := boundaryDepth size (size + 1) left (left + newest.length + next.length)
    let (merged, stack, patience) ← collapse less depth patience newest stack
    mergeAll size (start + newest.length) patience next (⟨depth, merged⟩ :: stack) rest

def sort (xs : List α) : Except ε (List α) := do
  match ← runs less (leastRun xs.length) xs.length xs with
  | [] => return []
  | run :: rest => mergeAll less xs.length 0 Merging.stretchLength run [] rest

end RelayClient.RunMergeSort
