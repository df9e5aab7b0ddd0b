import RelayClient.Proofs.CurveField
import RelayClient.Proofs.EdwardsGroup

/-!
# Points of ed25519 in extended coordinates

Extended coordinates stand for a point of the curve, and the operations on them for those of its group.
The base point has the order `groupOrder`, so the test for a small order finds the multiples of it by
multiples of this order.
-/
namespace RelayClient.Ed25519

abbrev CurvePoint := EdwardsPoint (ZMod fieldSize) (curveConstant : ZMod fieldSize)

namespace Point

/-- Extended coordinates of a point of the curve. -/
structure Represents (p : Point) (P : CurvePoint) : Prop where
  nonzero : (p.Z : ZMod fieldSize) ≠ 0
  first : (p.X : ZMod fieldSize) = P.x * p.Z
  second : (p.Y : ZMod fieldSize) = P.y * p.Z
  product : (p.T : ZMod fieldSize) = P.x * P.y * p.Z

variable {p q : Point} {P Q : CurvePoint}

theorem zero_represents : zero.Represents 0 := by
  constructor <;> simp [zero]

theorem Represents.negate (h : p.Represents P) : p.negate.Represents (-P) := by
  obtain ⟨hZ, hX, hY, hT⟩ := h
  refine ⟨hZ, ?_, hY, ?_⟩
  · simp only [Point.negate, natCast_sub, hX, EdwardsPoint.neg_x, Nat.cast_zero]
    ring
  · simp only [Point.negate, natCast_sub, hT, EdwardsPoint.neg_x, EdwardsPoint.neg_y, Nat.cast_zero]
    ring

/-- The four factors of a sum are the numerators and the denominators of the law, all of them times
`2 Z Z'`. -/
theorem Represents.sum (hp : p.Represents P) (hq : q.Represents Q) :
    (p.sum q).Represents (P + Q) := by
  have hplus := EdwardsPoint.one_add_cross_ne_zero P Q
  have hminus := EdwardsPoint.one_sub_cross_ne_zero P Q
  obtain ⟨hpZ, hpX, hpY, hpT⟩ := hp
  obtain ⟨hqZ, hqX, hqY, hqT⟩ := hq
  have hscale : (2 * p.Z * q.Z : ZMod fieldSize) ≠ 0 :=
    mul_ne_zero (mul_ne_zero two_ne_zero_field hpZ) hqZ
  have he : (sub (mul (add p.Y p.X) (add q.Y q.X)) (mul (sub p.Y p.X) (sub q.Y q.X)) :
      ZMod fieldSize) = 2 * p.Z * q.Z * EdwardsPoint.sumX P Q := by
    simp only [natCast_sub, natCast_mul, natCast_add, hpX, hpY, hqX, hqY, EdwardsPoint.sumX]
    ring
  have hf : (sub (mul (2 * p.Z) q.Z) (mul (mul (2 * p.T) curveConstant) q.T) : ZMod fieldSize) =
      2 * p.Z * q.Z * (1 - EdwardsPoint.cross P Q) := by
    simp only [natCast_sub, natCast_mul, Nat.cast_mul, Nat.cast_ofNat, hpT, hqT, EdwardsPoint.cross]
    ring
  have hg : (add (mul (2 * p.Z) q.Z) (mul (mul (2 * p.T) curveConstant) q.T) : ZMod fieldSize) =
      2 * p.Z * q.Z * (1 + EdwardsPoint.cross P Q) := by
    simp only [natCast_add, natCast_mul, Nat.cast_mul, Nat.cast_ofNat, hpT, hqT, EdwardsPoint.cross]
    ring
  have hh : (add (mul (add p.Y p.X) (add q.Y q.X)) (mul (sub p.Y p.X) (sub q.Y q.X)) :
      ZMod fieldSize) = 2 * p.Z * q.Z * EdwardsPoint.sumY P Q := by
    simp only [natCast_sub, natCast_mul, natCast_add, hpX, hpY, hqX, hqY, EdwardsPoint.sumY]
    ring
  constructor
  · simp only [Point.sum, natCast_mul, hf, hg]
    exact mul_ne_zero (mul_ne_zero hscale hminus) (mul_ne_zero hscale hplus)
  · simp only [Point.sum, natCast_mul, he, hf, hg, EdwardsPoint.add_x]
    field_simp
  · simp only [Point.sum, natCast_mul, hf, hg, hh, EdwardsPoint.add_y]
    field_simp
  · simp only [Point.sum, natCast_mul, he, hf, hg, hh, EdwardsPoint.add_x, EdwardsPoint.add_y]
    field_simp

theorem Represents.times (h : p.Represents P) {bits n : ℕ} (hn : n < 2 ^ bits) :
    (p.times bits n).Represents (n • P) := by
  induction bits generalizing n with
  | zero =>
    obtain rfl : n = 0 := Nat.lt_one_iff.mp hn
    rw [zero_nsmul]
    exact zero_represents
  | succ bits ih =>
    have hhalf := ih (n := n / 2) (by rw [Nat.pow_succ] at hn; omega)
    rw [Point.times]
    split
    · have hodd : n / 2 + n / 2 + 1 = n := by omega
      have hsum : (n / 2) • P + (n / 2) • P + P = n • P := by
        rw [← add_nsmul, ← succ_nsmul, hodd]
      rw [← hsum]
      exact (hhalf.sum hhalf).sum h
    · have heven : n / 2 + n / 2 = n := by omega
      rw [← heven, add_nsmul, heven]
      exact hhalf.sum hhalf

/-- Zero is the only point whose coordinates say so. -/
theorem Represents.eq_zero_iff (h : p.Represents P) :
    P = 0 ↔ p.X % fieldSize = 0 ∧ Ed25519.sub p.Y p.Z = 0 := by
  obtain ⟨hZ, hX, hY, -⟩ := h
  have hfirst : p.X % fieldSize = 0 ↔ P.x = 0 := by
    rw [← natCast_inj (Nat.mod_lt _ fieldSize_pos) fieldSize_pos, ZMod.natCast_mod, Nat.cast_zero, hX,
      mul_eq_zero, or_iff_left hZ]
  have hsecond : Ed25519.sub p.Y p.Z = 0 ↔ P.y = 1 := by
    rw [← natCast_inj (sub_lt _ _) fieldSize_pos, natCast_sub, Nat.cast_zero, hY, sub_eq_zero,
      mul_left_eq_self₀, or_iff_left hZ]
  rw [hfirst, hsecond, EdwardsPoint.ext_iff, EdwardsPoint.zero_x, EdwardsPoint.zero_y]

theorem Represents.hasSmallOrder_iff (h : p.Represents P) : p.hasSmallOrder ↔ 8 • P = 0 := by
  rw [(h.times (by decide : 8 < 2 ^ 4)).eq_zero_iff, hasSmallOrder, Bool.and_eq_true, beq_iff_eq,
    beq_iff_eq]

end Point

/-- The base point of the group. -/
def basePoint : CurvePoint where
  x := Point.base.X
  y := Point.base.Y
  lies := by decide +kernel

theorem base_represents : Point.base.Represents basePoint := by
  constructor <;> decide +kernel

theorem addOrderOf_basePoint : addOrderOf basePoint = groupOrder := by
  have : Fact groupOrder.Prime := ⟨groupOrder_prime⟩
  refine addOrderOf_eq_prime ?_ ?_
  · rw [(base_represents.times (by decide : groupOrder < 2 ^ 253)).eq_zero_iff]
    decide +kernel
  · rw [ne_eq, base_represents.eq_zero_iff]
    decide +kernel

theorem nsmul_basePoint_eq_zero_iff {n : ℕ} : n • basePoint = 0 ↔ groupOrder ∣ n := by
  rw [← addOrderOf_basePoint, addOrderOf_dvd_iff_nsmul_eq_zero]

theorem nsmul_mod_groupOrder (n : ℕ) : (n % groupOrder) • basePoint = n • basePoint := by
  rw [← addOrderOf_basePoint, mod_addOrderOf_nsmul]

end RelayClient.Ed25519
