import RelayClient.Fault

/-!
# Random draws

A source of randomness is a stream of numbers; each draw takes the next one and reduces it below
the bound it is asked for.
-/
namespace RelayClient

/-- Relay entropy lies below the greatest signed 64-bit number. -/
def entropyBound : Int := (1 <<< 63) - 1

/-- A stream, how much of it is used up, and the bounds asked for so far. -/
structure Draws where
  source : Nat → Nat
  used : Nat
  asked : List Int

namespace Draws

def ofList (numbers : List Nat) : Draws := ⟨fun i => numbers.getD i 0, 0, []⟩

/-- The next number below a bound; only positive bounds have one. -/
def below (bound : Int) (d : Draws) : Except Fault Int × Draws :=
  if bound ≤ 0 then (.error .boundNotPositive, d)
  else (.ok ((d.source d.used : Int) % bound), ⟨d.source, d.used + 1, d.asked ++ [bound]⟩)

/-- A draw succeeds exactly if its bound is positive. -/
theorem below_eq_ok_iff {bound n : Int} {d : Draws} :
    (d.below bound).1 = .ok n ↔ 0 < bound ∧ n = (d.source d.used : Int) % bound := by
  by_cases h : bound ≤ 0
  · simp [below, h, Int.not_lt.mpr h]
  · simp [below, h, eq_comm, Int.not_le.mp h]

theorem below_mem_range {bound n : Int} {d : Draws} (h : (d.below bound).1 = .ok n) :
    0 ≤ n ∧ n < bound := by
  obtain ⟨hb, rfl⟩ := below_eq_ok_iff.mp h
  exact ⟨Int.emod_nonneg _ (by omega), Int.emod_lt_of_pos _ hb⟩

def entropy (d : Draws) : Except Fault Int × Draws := d.below entropyBound

end Draws
end RelayClient
