import Mathlib.Tactic.NormNum.Prime
import RelayClient.Proofs.PrimeLadder
import RelayClient.Secp256k1

/-!
# The field of secp256k1

The size of the field is prime. One less than it has a prime factor past its root, whose
predecessor has such a factor in turn; the predecessor of that one has small factors only.
-/
namespace RelayClient.Secp256k1

def lowerFactor : ℕ := 255515944373312847190720520512484175977

def upperFactor : ℕ := 205115282021455665897114700593932402728804164701536103180137503955397371

/-- The prime factors of the predecessor of `lowerFactor`. -/
def smallFactors : List ℕ :=
  [2, 2, 2, 7, 7, 11, 1627, 2657, 4423, 41201, 96557, 7240687, 107590001]

theorem smallFactors_prime : ∀ q ∈ smallFactors, q.Prime := by
  simp only [smallFactors, List.forall_mem_cons, List.not_mem_nil, false_imp_iff, implies_true,
    and_true]
  norm_num

def rungs : List (ℕ × List ℕ) :=
  [(lowerFactor, [96557, 7240687, 107590001]), (upperFactor, [lowerFactor]),
    (fieldSize, [upperFactor])]

theorem fieldSize_prime : fieldSize.Prime := by
  have hladder : isLadder smallFactors rungs := by decide +kernel
  exact prime_of_isLadder smallFactors_prime hladder (fieldSize, [upperFactor]) (by simp [rungs])

end RelayClient.Secp256k1
