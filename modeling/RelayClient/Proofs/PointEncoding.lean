import RelayClient.Proofs.CurvePoints

/-!
# Points of ed25519 as bytes

A point is written as its second coordinate and the parity of the first one. Both coordinates can be
read back: the equation of the curve gives the first one up to its sign, and the field has an odd
number of elements, so that the parity tells the sign.
-/
namespace RelayClient

theorem Sha2.length_bigEndian (width n : ℕ) : (bigEndian width n).length = width := by
  induction width generalizing n with
  | zero => rfl
  | succ w ih => rw [bigEndian, List.length_append, ih, List.length_singleton]

theorem Sha2.bigEndianValue_bigEndian {width n : ℕ} (h : n < 256 ^ width) :
    bigEndianValue (bigEndian width n) = n := by
  induction width generalizing n with
  | zero =>
    obtain rfl : n = 0 := Nat.lt_one_iff.mp h
    rfl
  | succ w ih =>
    rw [Nat.pow_succ] at h
    have hrest : bigEndianValue (bigEndian w (n / 256)) = n / 256 := ih (by omega)
    rw [bigEndianValue] at hrest
    rw [bigEndian, bigEndianValue, List.foldl_append, hrest, List.foldl_cons, List.foldl_nil,
      UInt8.toNat_ofNat']
    omega

namespace Ed25519

theorem length_littleEndian (width n : ℕ) : (littleEndian width n).length = width := by
  rw [littleEndian, List.length_reverse, Sha2.length_bigEndian]

theorem littleEndianValue_littleEndian {width n : ℕ} (h : n < 256 ^ width) :
    littleEndianValue (littleEndian width n) = n := by
  rw [littleEndianValue, littleEndian, List.reverse_reverse, Sha2.bigEndianValue_bigEndian h]

theorem eq_val_of_natCast {a : ℕ} {x : ZMod fieldSize} (ha : a < fieldSize)
    (h : (a : ZMod fieldSize) = x) : a = x.val := by
  rw [← h, ZMod.val_natCast, Nat.mod_eq_of_lt ha]

/-- The number that a point is written as. -/
def pointNumber (P : CurvePoint) : ℕ := P.y.val + P.x.val % 2 * 2 ^ 255

variable {p : Point} {P : CurvePoint}

theorem fieldSize_lt : fieldSize < 2 ^ 255 := by decide

theorem pointNumber_mod (P : CurvePoint) : pointNumber P % 2 ^ 255 = P.y.val := by
  have hy := P.y.val_lt
  have hsize := fieldSize_lt
  rw [pointNumber]
  omega

theorem pointNumber_div (P : CurvePoint) : pointNumber P / 2 ^ 255 = P.x.val % 2 := by
  have hy := P.y.val_lt
  have hsize := fieldSize_lt
  rw [pointNumber]
  omega

theorem littleEndianValue_pointNumber (P : CurvePoint) :
    littleEndianValue (littleEndian 32 (pointNumber P)) = pointNumber P := by
  refine littleEndianValue_littleEndian ?_
  have hmod := pointNumber_mod P
  have hdiv := pointNumber_div P
  have hy := P.y.val_lt
  have hsize := fieldSize_lt
  omega

theorem isCanonical_pointNumber (P : CurvePoint) :
    isCanonical (littleEndian 32 (pointNumber P)) := by
  rw [isCanonical, littleEndianValue_pointNumber, decide_eq_true_eq]
  exact (pointNumber_mod P).trans_lt P.y.val_lt

/-- How a point is written depends on the point only, not on its coordinates. -/
theorem Point.Represents.encode_eq (h : p.Represents P) :
    p.encode = littleEndian 32 (pointNumber P) := by
  obtain ⟨hZ, hX, hY, -⟩ := h
  have hx : mul p.X (inverse p.Z) = P.x.val := by
    refine eq_val_of_natCast (mul_lt _ _) ?_
    rw [natCast_mul, natCast_inverse, hX, mul_inv_cancel_right₀ hZ]
  have hy : mul p.Y (inverse p.Z) = P.y.val := by
    refine eq_val_of_natCast (mul_lt _ _) ?_
    rw [natCast_mul, natCast_inverse, hY, mul_inv_cancel_right₀ hZ]
  rw [Point.encode, hx, hy, Nat.shiftLeft_eq, pointNumber]

/-- Of two opposite roots the one of the same parity is meant. -/
theorem natCast_of_parity {r : ℕ} {x : ZMod fieldSize} (hr : r < fieldSize)
    (h : (r : ZMod fieldSize) = x ∨ (r : ZMod fieldSize) = -x) :
    ((if r % 2 = x.val % 2 then r else sub 0 r : ℕ) : ZMod fieldSize) = x := by
  by_cases hsame : (r : ZMod fieldSize) = x
  · have hval : r = x.val := eq_val_of_natCast hr hsame
    rw [hval, if_pos rfl, ZMod.natCast_zmod_val]
  · have hneg : (r : ZMod fieldSize) = -x := h.resolve_left hsame
    have hzero : x ≠ 0 := by
      rintro rfl
      exact hsame (hneg.trans neg_zero)
    have hsum : r + x.val = fieldSize := by
      rw [eq_val_of_natCast hr hneg, ZMod.neg_val, if_neg hzero]
      exact Nat.sub_add_cancel x.val_lt.le
    have hodd : fieldSize % 2 = 1 := by decide
    rw [if_neg (by omega), natCast_sub, Nat.cast_zero, hneg, zero_sub, neg_neg]

/-- The quotient that is the square of the first coordinate has no zero below. -/
theorem below_ne_zero (y : ZMod fieldSize) : curveConstant * y ^ 2 + 1 ≠ 0 := by
  obtain ⟨i, hi⟩ := (Fact.out : IsSquare (-1 : ZMod fieldSize))
  intro h
  by_cases hy : y = 0
  · rw [hy] at h
    simp at h
  · have hmultiple : (curveConstant : ZMod fieldSize) * y ^ 2 = i ^ 2 := by
      linear_combination h + hi
    exact EdwardsPoint.not_square_multiple hy hmultiple

/-- A point of the curve is found again in its bytes. -/
theorem decode?_pointNumber (P : CurvePoint) :
    ∃ p, Point.decode? (littleEndian 32 (pointNumber P)) = some p ∧ p.Represents P := by
  have hu : (sub (mul P.y.val P.y.val) 1 : ZMod fieldSize) = P.y ^ 2 - 1 := by
    rw [natCast_sub, natCast_mul, ZMod.natCast_zmod_val, Nat.cast_one, pow_two]
  have hv : (add (mul curveConstant (mul P.y.val P.y.val)) 1 : ZMod fieldSize) =
      curveConstant * P.y ^ 2 + 1 := by
    rw [natCast_add, natCast_mul, natCast_mul, ZMod.natCast_zmod_val, Nat.cast_one, pow_two]
  have hne := below_ne_zero P.y
  have hlies : (curveConstant * P.y ^ 2 + 1) * P.x ^ 2 = P.y ^ 2 - 1 := by
    linear_combination -P.lies
  rw [← hv] at hne
  obtain ⟨r, hr, hroot, hsquare⟩ := rootOfQuotient?_eq_some hne
    ((congrArg (· * P.x ^ 2) hv).trans (hlies.trans hu.symm))
  have hsign : (r : ZMod fieldSize) = P.x ∨ (r : ZMod fieldSize) = -P.x := by
    rw [hv, hu, ← hlies] at hsquare
    exact sq_eq_sq_iff_eq_or_eq_neg.mp (mul_left_cancel₀ (below_ne_zero P.y) hsquare)
  have hx := natCast_of_parity hr hsign
  have hy : pointNumber P % 2 ^ 255 % fieldSize = P.y.val := by
    rw [pointNumber_mod, Nat.mod_eq_of_lt P.y.val_lt]
  have hparity : pointNumber P / 2 ^ 255 % 2 = P.x.val % 2 := by
    rw [pointNumber_div, Nat.mod_mod]
  have hdecode : Point.decode? (littleEndian 32 (pointNumber P)) =
      some (let x := if r % 2 = P.x.val % 2 then r else sub 0 r
        ⟨x, P.y.val, 1, mul x P.y.val⟩) := by
    rw [Point.decode?, littleEndianValue_pointNumber, Nat.shiftRight_eq_div_pow, hparity,
      Nat.one_shiftLeft, hy, hroot]
    rfl
  refine ⟨_, hdecode, ?_⟩
  constructor
  · rw [Nat.cast_one]
    exact one_ne_zero
  · rw [hx, Nat.cast_one, mul_one]
  · rw [ZMod.natCast_zmod_val, Nat.cast_one, mul_one]
  · rw [natCast_mul, hx, ZMod.natCast_zmod_val, Nat.cast_one, mul_one]

end Ed25519
end RelayClient
