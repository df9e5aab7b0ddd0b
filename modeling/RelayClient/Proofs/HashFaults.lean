import RelayClient.Proofs.RelayCourse

/-!
# What can go wrong with a hash

A sorting fails only where a comparison does, and a comparison fails for want of an order. With the
faults of encoding and of what is absent these are all the faults of hashing.
-/
namespace RelayClient

/-- Whatever goes wrong is of one kind. -/
def FailsWith {α ε : Type} (P : ε → Prop) (x : Except ε α) : Prop := ∀ e, x = .error e → P e

namespace FailsWith

variable {α β ε : Type} {P : ε → Prop}

theorem ok (a : α) : FailsWith P (.ok a) := nofun

theorem error {e : ε} (h : P e) : FailsWith P (.error e : Except ε α) := by
  rintro _ ⟨⟩
  exact h

theorem bind {x : Except ε α} {f : α → Except ε β} (hx : FailsWith P x)
    (hf : ∀ a, FailsWith P (f a)) : FailsWith P (x >>= f) := by
  intro e h
  cases x with
  | error _ =>
    cases h
    exact hx _ rfl
  | ok a => exact hf a e h

theorem map {x : Except ε α} (hx : FailsWith P x) (f : α → β) : FailsWith P (f <$> x) := by
  intro e h
  cases x with
  | error _ =>
    cases h
    exact hx _ rfl
  | ok a => cases h

end FailsWith

section Sorting

variable {α ε : Type} {P : ε → Prop} {less : α → α → Except ε Bool}

namespace Gallop

variable {side : Side} {test : Nat → Except ε Bool}

theorem halve_failsWith (h : ∀ n, FailsWith P (test n)) (fuel low high : Nat) :
    FailsWith P (halve side test fuel low high) := by
  induction fuel generalizing low high with
  | zero => exact .ok _
  | succ fuel ih =>
    unfold halve
    split
    · refine .bind (h _) fun holds => ?_
      split
      · exact ih _ _
      · exact ih _ _
    · exact .ok _

theorem stride_failsWith (h : ∀ n, FailsWith P (test n)) (size fuel last next : Nat) :
    FailsWith P (stride side test size fuel last next) := by
  induction fuel generalizing last next with
  | zero => exact .ok _
  | succ fuel ih =>
    unfold stride
    split
    · refine .bind (h _) fun holds => ?_
      split
      · exact ih _ _
      · exact halve_failsWith h _ _ _
    · exact halve_failsWith h _ _ _

theorem count_failsWith {test : α → Except ε Bool} (h : ∀ a, FailsWith P (test a)) (xs : List α) :
    FailsWith P (count side test xs) := by
  have hholds (i : Nat) : FailsWith P ((xs[i]?).elim (.ok false) test) := by
    cases xs[i]? with
    | none => exact .ok _
    | some a => exact h a
  refine .bind (hholds 0) fun holds => ?_
  split
  · exact stride_failsWith hholds _ _ _ _
  · exact .ok _

end Gallop

/-- The negation of a comparison fails as the comparison does. -/
private theorem FailsWith.not {x : Except ε Bool} (h : FailsWith P x) :
    FailsWith P (do return !(← x)) :=
  .bind h fun _ => .ok _

namespace Merging

variable {side : Side} {before : α → α → Except ε Bool}

theorem stretchShort_failsWith (h : ∀ a b, FailsWith P (before a b)) (m : Merging α) :
    FailsWith P (stretchShort side before m) := by
  unfold stretchShort
  split
  · exact .bind (Gallop.count_failsWith (fun _ => .not (h _ _)) _) fun _ => .ok _
  · exact .ok _

theorem stretchLong_failsWith (h : ∀ a b, FailsWith P (before a b)) (m : Merging α) :
    FailsWith P (stretchLong side before m) := by
  unfold stretchLong
  split
  · exact .bind (Gallop.count_failsWith (fun _ => h _ _) _) fun _ => .ok _
  · exact .ok _

theorem stretches_failsWith (h : ∀ a b, FailsWith P (before a b)) (m : Merging α) :
    FailsWith P (stretches side before m) := by
  cases side with
  | front =>
    exact .bind (stretchShort_failsWith h _) fun _ =>
      .bind (stretchLong_failsWith h _) fun _ => .ok _
  | back =>
    exact .bind (stretchLong_failsWith h _) fun _ =>
      .bind (stretchShort_failsWith h _) fun _ => .ok _

theorem run_failsWith (h : ∀ a b, FailsWith P (before a b)) (fuel patience : Nat) (pace : Pace)
    (m : Merging α) : FailsWith P (run side before fuel patience pace m) := by
  induction fuel generalizing patience pace m with
  | zero => exact .ok _
  | succ fuel ih =>
    unfold run
    split
    · exact .ok _
    split
    · refine .bind (h _ _) fun first => ?_
      split
      · exact ih _ _ _
      · exact ih _ _ _
    · refine .bind (stretches_failsWith h _) fun ⟨_, _⟩ => ?_
      dsimp only
      split
      · exact .ok _
      split
      · exact ih _ _ _
      · exact ih _ _ _

end Merging

theorem mergeRuns_failsWith (h : ∀ a b, FailsWith P (less a b)) (patience : Nat)
    (left right : List α) : FailsWith P (mergeRuns less patience left right) := by
  unfold mergeRuns
  split
  · exact .ok _
  refine .bind (Gallop.count_failsWith (fun _ => .not (h _ _)) _) fun settled => ?_
  dsimp only
  split
  · exact .ok _
  refine .bind (Gallop.count_failsWith (fun _ => .not (h _ _)) _) fun trailing => ?_
  split
  · exact .ok _
  split
  · exact .bind (Merging.run_failsWith h _ _ _ _) fun _ => .ok _
  · exact .bind (Merging.run_failsWith (fun _ _ => h _ _) _ _ _ _) fun _ => .ok _

namespace RunMergeSort

theorem fallingRun_failsWith (h : ∀ a b, FailsWith P (less a b)) (last : α) (xs : List α) :
    FailsWith P (fallingRun less last xs) := by
  induction xs generalizing last with
  | nil => exact .ok _
  | cons x r ih =>
    refine .bind (h _ _) fun falls => ?_
    split
    · exact .bind (ih _) fun _ => .ok _
    · exact .ok _

theorem risingRun_failsWith (h : ∀ a b, FailsWith P (less a b)) (last : α) (xs : List α) :
    FailsWith P (risingRun less last xs) := by
  induction xs generalizing last with
  | nil => exact .ok _
  | cons x r ih =>
    refine .bind (h _ _) fun falls => ?_
    split
    · exact .ok _
    · exact .bind (ih _) fun _ => .ok _

theorem leadingRun_failsWith (h : ∀ a b, FailsWith P (less a b)) (xs : List α) :
    FailsWith P (leadingRun less xs) := by
  unfold leadingRun
  split
  · refine .bind (h _ _) fun falls => ?_
    split
    · exact .bind (fallingRun_failsWith h _ _) fun _ => .ok _
    · exact .bind (risingRun_failsWith h _ _) fun _ => .ok _
  · exact .ok _

theorem place_failsWith (h : ∀ a b, FailsWith P (less a b)) (x : α) (fuel : Nat) (xs : List α) :
    FailsWith P (place less x fuel xs) := by
  induction fuel generalizing xs with
  | zero => exact .ok _
  | succ fuel ih =>
    unfold place
    split
    · exact .ok _
    · refine .bind (h _ _) fun first => ?_
      split
      · exact .bind (ih _) fun _ => .ok _
      · exact .bind (ih _) fun _ => .ok _

theorem placeAll_failsWith (h : ∀ a b, FailsWith P (less a b)) (ordered xs : List α) :
    FailsWith P (placeAll less ordered xs) := by
  induction xs generalizing ordered with
  | nil => exact .ok _
  | cons x r ih => exact .bind (place_failsWith h _ _ _) fun _ => ih _

theorem runs_failsWith (h : ∀ a b, FailsWith P (less a b)) (least fuel : Nat) (xs : List α) :
    FailsWith P (runs less least fuel xs) := by
  induction fuel generalizing xs with
  | zero =>
    cases xs with
    | nil => exact .ok _
    | cons x r => exact .ok _
  | succ fuel ih =>
    cases xs with
    | nil => exact .ok _
    | cons x r =>
      refine .bind (leadingRun_failsWith h _) fun _ => ?_
      exact .bind (placeAll_failsWith h _ _) fun _ => .bind (ih _) fun _ => .ok _

theorem collapse_failsWith (h : ∀ a b, FailsWith P (less a b)) (depth patience : Nat)
    (newest : List α) (stack : List (Pending α)) :
    FailsWith P (collapse less depth patience newest stack) := by
  induction stack generalizing patience newest with
  | nil => exact .ok _
  | cons p stack ih =>
    unfold collapse
    split
    · exact .bind (mergeRuns_failsWith h _ _ _) fun _ => ih _ _
    · exact .ok _

theorem finish_failsWith (h : ∀ a b, FailsWith P (less a b)) (fuel patience : Nat)
    (stack : List (List α)) : FailsWith P (finish less fuel patience stack) := by
  induction fuel generalizing patience stack with
  | zero => exact .ok _
  | succ fuel ih =>
    match stack with
    | [] => exact .ok _
    | [run] => exact .ok _
    | [c, b] => exact .map (mergeRuns_failsWith h _ _ _) _
    | c :: b :: a :: stack =>
      rw [finish]
      split
      · exact .bind (mergeRuns_failsWith h _ _ _) fun _ => ih _ _
      · exact .bind (mergeRuns_failsWith h _ _ _) fun _ => ih _ _

theorem mergeAll_failsWith (h : ∀ a b, FailsWith P (less a b)) (size start patience : Nat)
    (newest : List α) (stack : List (Pending α)) (rest : List (List α)) :
    FailsWith P (mergeAll less size start patience newest stack rest) := by
  induction rest generalizing start patience newest stack with
  | nil => exact finish_failsWith h _ _ _
  | cons next rest ih => exact .bind (collapse_failsWith h _ _ _ _) fun _ => ih _ _ _ _

/-- A sorting fails only as a comparison does. -/
theorem sort_failsWith (h : ∀ a b, FailsWith P (less a b)) (xs : List α) :
    FailsWith P (sort less xs) := by
  refine .bind (runs_failsWith h _ _ _) fun runs => ?_
  split
  · exact .ok _
  · exact mergeAll_failsWith h _ _ _ _ _ _

end RunMergeSort
end Sorting

/-- The faults of hashing: a value cannot be encoded, two keys have no order, or something that is
needed is absent. -/
def Fault.IsHashing : Fault → Prop
  | .unencodable _ | .notOrdered _ _ | .noAttribute _ _ => True
  | _ => False

mutual

theorem Value.lt_failsWith (v w : Value) : FailsWith Fault.IsHashing (v.lt w) := by
  unfold Value.lt
  split
  · exact .ok _
  · exact .ok _
  · exact itemsLt_failsWith _ _
  · exact itemsLt_failsWith _ _
  · split
    · exact .ok _
    · exact .error trivial
termination_by sizeOf v

theorem Value.itemsLt_failsWith (a b : List Value) :
    FailsWith Fault.IsHashing (itemsLt a b) := by
  unfold itemsLt
  split
  · exact .ok _
  · exact .ok _
  · split
    · exact itemsLt_failsWith _ _
    · exact lt_failsWith _ _
termination_by sizeOf a

end

theorem sortedMap_failsWith (headers : Option Entries) :
    FailsWith Fault.IsHashing (sortedMap headers) := by
  cases headers with
  | none => exact .ok _
  | some es =>
    refine .bind ?_ fun _ => .ok _
    unfold Entries.sorted
    split
    · exact .ok _
    · exact RunMergeSort.sort_failsWith (fun _ _ => Value.lt_failsWith _ _) es

theorem canonicalHash_failsWith (v : Value) : FailsWith Fault.IsHashing (canonicalHash v) := by
  refine .bind ?_ fun _ => .ok _
  unfold canonicalBytes
  cases Canonical.encode v with
  | error u => exact .error trivial
  | ok b => exact .ok _

theorem Request.hash_failsWith (r : Request) : FailsWith Fault.IsHashing r.hash := by
  refine .bind (.bind ?_ fun _ => .ok _) fun v => .bind (canonicalHash_failsWith v) fun _ => .ok _
  exact .bind (sortedMap_failsWith _) fun _ => .ok _

theorem Proof.digest_failsWith (p : Proof) : FailsWith Fault.IsHashing p.digest := by
  refine .bind ?_ canonicalHash_failsWith
  unfold signable
  split
  · exact .error trivial
  · exact .bind (.bind (canonicalHash_failsWith _) fun _ => .ok _) fun _ => .ok _

theorem Input.metadata_failsWith (i : Input) : FailsWith Fault.IsHashing i.metadata := by
  refine .bind ?_ fun _ => .ok _
  unfold sessionHeight
  split
  · exact .error trivial
  · split
    · exact .error trivial
    · exact .ok _

/-- Everything that can keep a relay from being signed once it has a node and an entropy. -/
theorem Input.digested_failsWith (i : Input) (node : Option Node) (entropy : Value) :
    FailsWith Fault.IsHashing (i.digested node entropy) := by
  refine .bind ?_ fun p => .bind p.digest_failsWith fun _ => .ok _
  refine .bind i.metadata_failsWith fun _ => .bind (Request.hash_failsWith _) fun _ => ?_
  split
  · exact .error trivial
  · exact .ok _

end RelayClient
