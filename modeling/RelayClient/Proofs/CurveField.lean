import Mathlib.NumberTheory.LegendreSymbol.JacobiSymbol
import Mathlib.Tactic.LinearCombination
import Mathlib.Tactic.NormNum.LegendreSymbol
import Mathlib.Tactic.NormNum.Prime
import Mathlib.Tactic.Ring
import RelayClient.Proofs.PrimeLadder

/-!
# The field of ed25519

The field has a prime number of elements, and so has the group of the base point. Minus one has a root
in the field, the curve constant has none. The operations on numbers are those of the field, and roots
of quotients are found by a power.
-/
namespace RelayClient.Ed25519

/-- Small primes that the ladder stands on. -/
def smallPrimes : List ℕ := [127, 4153, 430751, 531581, 569003, 1224481, 8574133]

theorem smallPrimes_prime : ∀ q ∈ smallPrimes, q.Prime := by
  simp only [smallPrimes, List.forall_mem_cons, List.not_mem_nil, false_imp_iff, implies_true,
    and_true]
  norm_num

/-- A factor of the predecessor of `fieldSize`. -/
def fieldFactor : ℕ := 74058212732561358302231226437062788676166966415465897661863160754340907

/-- A factor of the predecessor of `groupOrder`. -/
def groupFactor : ℕ := 276602624281642239937218680557139826668747

def rungs : List (ℕ × List ℕ) :=
  [(2773320623, [569003]), (72106336199, [2773320623]), (1919519569386763, [127, 8574133]),
    (31757755568855353, [4153, 430751]),
    (75445702479781427272750846543864801, [72106336199, 1919519569386763]),
    (fieldFactor, [31757755568855353, 75445702479781427272750846543864801]),
    (fieldSize, [fieldFactor]),
    (1257559732178653, [531581, 1224481]), (4434155615661930479, [1257559732178653]),
    (172054593956031949258510691, [4434155615661930479]),
    (19757330305831588566944191468367130476339, [172054593956031949258510691]),
    (groupFactor, [19757330305831588566944191468367130476339]),
    (groupOrder, [groupFactor])]

theorem rungs_prime : ∀ rung ∈ rungs, rung.1.Prime := by
  have hladder : isLadder smallPrimes rungs := by decide +kernel
  exact prime_of_isLadder smallPrimes_prime hladder

theorem fieldSize_prime : fieldSize.Prime := rungs_prime (fieldSize, [fieldFactor]) (by simp [rungs])

theorem groupOrder_prime : groupOrder.Prime :=
  rungs_prime (groupOrder, [groupFactor]) (by simp [rungs])

instance : Fact fieldSize.Prime := ⟨fieldSize_prime⟩

instance : Fact (IsSquare (-1 : ZMod fieldSize)) := by
  refine ⟨(rootOfMinusOne : ZMod fieldSize), ?_⟩
  decide +kernel

theorem two_ne_zero_field : (2 : ZMod fieldSize) ≠ 0 := by decide +kernel

/-- The curve constant is `-121665 / 121666`. -/
theorem curveConstant_eq : 121666 * (curveConstant : ZMod fieldSize) = -121665 := by decide +kernel

instance : Fact (¬ IsSquare (curveConstant : ZMod fieldSize)) := by
  refine ⟨?_⟩
  rintro ⟨r, hr⟩
  have hsquare : IsSquare ((-121665 * 121666 : ℤ) : ZMod fieldSize) := by
    refine ⟨121666 * r, ?_⟩
    push_cast
    linear_combination -121666 * curveConstant_eq + 121666 ^ 2 * hr
  have hsize : fieldSize = 2 ^ 255 - 19 := by decide
  have hsymbol : jacobiSym (-121665 * 121666) fieldSize = -1 := by
    rw [hsize]
    norm_num
  exact ZMod.nonsquare_of_jacobiSym_eq_neg_one hsymbol hsquare

theorem natCast_inj {a b : ℕ} (ha : a < fieldSize) (hb : b < fieldSize) :
    (a : ZMod fieldSize) = b ↔ a = b := by
  rw [ZMod.natCast_eq_natCast_iff', Nat.mod_eq_of_lt ha, Nat.mod_eq_of_lt hb]

theorem fieldSize_pos : 0 < fieldSize := by decide

theorem mul_lt (a b : ℕ) : mul a b < fieldSize := Nat.mod_lt _ fieldSize_pos

theorem sub_lt (a b : ℕ) : sub a b < fieldSize := Nat.mod_lt _ fieldSize_pos

@[simp] theorem natCast_add (a b : ℕ) : (add a b : ZMod fieldSize) = a + b := by
  rw [add, ZMod.natCast_mod, Nat.cast_add]

@[simp] theorem natCast_mul (a b : ℕ) : (mul a b : ZMod fieldSize) = a * b := by
  rw [mul, ZMod.natCast_mod, Nat.cast_mul]

@[simp] theorem natCast_sub (a b : ℕ) : (sub a b : ZMod fieldSize) = a - b := by
  have hb : b % fieldSize ≤ fieldSize := (Nat.mod_lt _ fieldSize_pos).le
  rw [sub, ZMod.natCast_mod, Nat.cast_add, Nat.cast_sub hb, ZMod.natCast_mod, ZMod.natCast_self]
  ring

theorem natCast_pow (a : ℕ) {e : ℕ} (h : e < 2 ^ 255) : (pow a e : ZMod fieldSize) = a ^ e := by
  rw [pow, powMod_eq _ _ h, ZMod.natCast_mod, Nat.cast_pow]

@[simp] theorem natCast_inverse (a : ℕ) : (inverse a : ZMod fieldSize) = (a : ZMod fieldSize)⁻¹ := by
  rw [inverse, natCast_pow a (by decide)]
  by_cases ha : (a : ZMod fieldSize) = 0
  · rw [ha, inv_zero, zero_pow (by decide)]
  · have hexponent : fieldSize - 2 + 1 = fieldSize - 1 := by decide
    refine eq_inv_of_mul_eq_one_left ?_
    rw [← pow_succ, hexponent, ZMod.pow_card_sub_one_eq_one ha]

theorem rootOfMinusOne_mul_self :
    (rootOfMinusOne : ZMod fieldSize) * rootOfMinusOne = -1 := by decide +kernel

/-- The power that is tried for a root of `u / v` misses it by a fourth root of one. -/
theorem candidate_mul_self (u v : ZMod fieldSize) :
    v * (u * v ^ 3 * (u * v ^ 7) ^ ((fieldSize - 5) / 8)) ^ 2 =
      u * (u * v ^ 7) ^ ((fieldSize - 1) / 4) := by
  have hexponent : (fieldSize - 1) / 4 = (fieldSize - 5) / 8 * 2 + 1 := by decide
  rw [hexponent]
  generalize (fieldSize - 5) / 8 = e
  ring

theorem fourthRoot_cases {u v x : ZMod fieldSize} (hv : v ≠ 0) (hx : v * x ^ 2 = u) :
    u = 0 ∨ (u * v ^ 7) ^ ((fieldSize - 1) / 4) = 1 ∨
      (u * v ^ 7) ^ ((fieldSize - 1) / 4) = -1 := by
  by_cases hzero : x = 0
  · rw [hzero] at hx
    exact .inl (by rw [← hx]; ring)
  · have hbase : u * v ^ 7 = (x * v ^ 4) ^ 2 := by
      rw [← hx]
      ring
    have hexponent : 2 * ((fieldSize - 1) / 4 * 2) = fieldSize - 1 := by decide
    refine .inr (sq_eq_one_iff.mp ?_)
    rw [hbase, ← pow_mul, ← pow_mul, hexponent]
    exact ZMod.pow_card_sub_one_eq_one (mul_ne_zero hzero (pow_ne_zero 4 hv))

/-- A root of a quotient is found if there is one. -/
theorem rootOfQuotient?_eq_some {u v : ℕ} {x : ZMod fieldSize} (hv : (v : ZMod fieldSize) ≠ 0)
    (hx : v * x ^ 2 = u) : ∃ r < fieldSize, rootOfQuotient? u v = some r ∧
      (v : ZMod fieldSize) * r ^ 2 = u := by
  have hcandidate := candidate_mul_self (u : ZMod fieldSize) v
  obtain ⟨r, hr, hcast, hroot⟩ : ∃ r < fieldSize, (r : ZMod fieldSize) =
      u * v ^ 3 * (u * v ^ 7) ^ ((fieldSize - 5) / 8) ∧ rootOfQuotient? u v =
        if mul v (mul r r) = u % fieldSize then some r
        else if mul v (mul r r) = sub 0 u then some (mul r rootOfMinusOne) else none := by
    refine ⟨_, mul_lt _ _, ?_, rfl⟩
    simp only [natCast_mul, natCast_pow _ (by decide : (fieldSize - 5) / 8 < 2 ^ 255)]
    ring
  have hcheck : (mul v (mul r r) : ZMod fieldSize) = v * r ^ 2 := by
    rw [natCast_mul, natCast_mul, pow_two]
  have hplus : mul v (mul r r) = u % fieldSize ↔ (v : ZMod fieldSize) * r ^ 2 = u := by
    rw [← natCast_inj (mul_lt _ _) (Nat.mod_lt _ fieldSize_pos), hcheck, ZMod.natCast_mod]
  have hminus : mul v (mul r r) = sub 0 u ↔ (v : ZMod fieldSize) * r ^ 2 = -u := by
    rw [← natCast_inj (mul_lt _ _) (sub_lt _ _), hcheck, natCast_sub, Nat.cast_zero, zero_sub]
  simp only [hroot, hplus, hminus]
  by_cases h : (v : ZMod fieldSize) * r ^ 2 = u
  · exact ⟨r, hr, if_pos h, h⟩
  · have hneg : (v : ZMod fieldSize) * r ^ 2 = -u := by
      have hcandidate := candidate_mul_self (u : ZMod fieldSize) v
      rw [← hcast] at hcandidate
      obtain hzero | hone | hminusOne := fourthRoot_cases hv hx
      · rw [hcandidate, hzero, zero_mul, neg_zero]
      · exact absurd (by rw [hcandidate, hone, mul_one]) h
      · rw [hcandidate, hminusOne, mul_neg_one]
    refine ⟨_, mul_lt _ _, by rw [if_neg h, if_pos hneg], ?_⟩
    rw [natCast_mul]
    linear_combination r ^ 2 * (v : ZMod fieldSize) * rootOfMinusOne_mul_self - hneg

end RelayClient.Ed25519
