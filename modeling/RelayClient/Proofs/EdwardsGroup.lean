import Mathlib.Algebra.Group.MinimalAxioms
import Mathlib.Tactic.FieldSimp
import Mathlib.Tactic.LinearCombination
import Mathlib.Tactic.Ring

/-!
# The group of an Edwards curve

The points of `y² - x² = 1 + d x² y²` over a field are a group under one law of addition. If minus one
is a square and `d` is not, no denominator of the law vanishes, so that it has no exceptions.
-/
namespace RelayClient

/-- A point of the curve `y² - x² = 1 + d x² y²`. -/
@[ext] structure EdwardsPoint (F : Type) [Field F] (d : F) where
  x : F
  y : F
  lies : y ^ 2 - x ^ 2 = 1 + d * x ^ 2 * y ^ 2

namespace EdwardsPoint

variable {F : Type} [Field F] {d : F}

instance : Zero (EdwardsPoint F d) := ⟨⟨0, 1, by ring⟩⟩

instance : Neg (EdwardsPoint F d) := ⟨fun P => ⟨-P.x, P.y, by rw [neg_sq, P.lies]⟩⟩

@[simp] theorem zero_x : (0 : EdwardsPoint F d).x = 0 := rfl
@[simp] theorem zero_y : (0 : EdwardsPoint F d).y = 1 := rfl
@[simp] theorem neg_x (P : EdwardsPoint F d) : (-P).x = -P.x := rfl
@[simp] theorem neg_y (P : EdwardsPoint F d) : (-P).y = P.y := rfl

/-- The numerators of the law. -/
def sumX (P Q : EdwardsPoint F d) : F := P.x * Q.y + P.y * Q.x

def sumY (P Q : EdwardsPoint F d) : F := P.y * Q.y + P.x * Q.x

/-- What one denominator of the law adds to one, and the other one subtracts from it. -/
def cross (P Q : EdwardsPoint F d) : F := d * P.x * Q.x * P.y * Q.y

theorem cross_comm (P Q : EdwardsPoint F d) : cross P Q = cross Q P := by
  simp only [cross]
  ring

theorem cross_neg (P Q : EdwardsPoint F d) : cross P (-Q) = -cross P Q := by
  simp only [cross, neg_x, neg_y]
  ring

section Complete

variable [square : Fact (IsSquare (-1 : F))] [nonsquare : Fact (¬ IsSquare d)]

omit square in
theorem not_square_multiple {u v : F} (hv : v ≠ 0) : d * v ^ 2 ≠ u ^ 2 := by
  intro h
  refine nonsquare.out ⟨u / v, ?_⟩
  field_simp
  exact h

/-- If the denominator vanished, `d` would be a square: of one of two quotients, unless both have a
zero below, and then of a third one. -/
theorem one_add_cross_ne_zero (P Q : EdwardsPoint F d) : 1 + cross P Q ≠ 0 := by
  obtain ⟨i, hi⟩ := square.out
  obtain ⟨x₁, y₁, h₁⟩ := P
  obtain ⟨x₂, y₂, h₂⟩ := Q
  intro h
  simp only [cross] at h
  have hproduct : d * x₁ * x₂ * y₁ * y₂ ≠ 0 := by
    rw [eq_neg_of_add_eq_zero_right h]
    exact neg_ne_zero.mpr one_ne_zero
  have hfirst : x₁ * y₁ ≠ 0 := fun hzero => hproduct (by linear_combination d * x₂ * y₂ * hzero)
  have hsecond : x₂ * y₂ ≠ 0 := fun hzero => hproduct (by linear_combination d * x₁ * y₁ * hzero)
  have hplus : d * (x₁ * y₁ * (y₂ + i * x₂)) ^ 2 = (y₁ - i * x₁) ^ 2 := by
    linear_combination d * x₁ ^ 2 * y₁ ^ 2 * h₂ - h₁ +
      (d * x₁ * x₂ * y₁ * y₂ - 1 + 2 * i * x₁ * y₁) * h -
      (d * x₁ ^ 2 * y₁ ^ 2 * x₂ ^ 2 - x₁ ^ 2) * hi
  have hminus : d * (x₁ * y₁ * (y₂ - i * x₂)) ^ 2 = (y₁ + i * x₁) ^ 2 := by
    linear_combination d * x₁ ^ 2 * y₁ ^ 2 * h₂ - h₁ +
      (d * x₁ * x₂ * y₁ * y₂ - 1 - 2 * i * x₁ * y₁) * h -
      (d * x₁ ^ 2 * y₁ ^ 2 * x₂ ^ 2 - x₁ ^ 2) * hi
  by_cases hp : y₂ + i * x₂ = 0
  · by_cases hm : y₂ - i * x₂ = 0
    · have hboth : d * (x₂ * y₂) ^ 2 = i ^ 2 := by
        linear_combination -h₂ + i * x₂ * hp + y₂ * hm + (1 + x₂ ^ 2) * hi
      exact not_square_multiple hsecond hboth
    · exact not_square_multiple (mul_ne_zero hfirst hm) hminus
  · exact not_square_multiple (mul_ne_zero hfirst hp) hplus

theorem one_sub_cross_ne_zero (P Q : EdwardsPoint F d) : 1 - cross P Q ≠ 0 := by
  have h := one_add_cross_ne_zero P (-Q)
  rwa [cross_neg, ← sub_eq_add_neg] at h

/-- The sum of two points lies on the curve. -/
theorem sum_lies (P Q : EdwardsPoint F d) :
    (sumY P Q / (1 - cross P Q)) ^ 2 - (sumX P Q / (1 + cross P Q)) ^ 2 =
      1 + d * (sumX P Q / (1 + cross P Q)) ^ 2 * (sumY P Q / (1 - cross P Q)) ^ 2 := by
  have hplus := one_add_cross_ne_zero P Q
  have hminus := one_sub_cross_ne_zero P Q
  obtain ⟨x₁, y₁, h₁⟩ := P
  obtain ⟨x₂, y₂, h₂⟩ := Q
  field_simp
  simp only [sumX, sumY, cross]
  grind

instance : Add (EdwardsPoint F d) where
  add P Q := ⟨sumX P Q / (1 + cross P Q), sumY P Q / (1 - cross P Q), sum_lies P Q⟩

theorem add_x (P Q : EdwardsPoint F d) : (P + Q).x = sumX P Q / (1 + cross P Q) := rfl

theorem add_y (P Q : EdwardsPoint F d) : (P + Q).y = sumY P Q / (1 - cross P Q) := rfl

protected theorem add_comm (P Q : EdwardsPoint F d) : P + Q = Q + P := by
  ext
  · rw [add_x, add_x, cross_comm, sumX, sumX]
    ring
  · rw [add_y, add_y, cross_comm, sumY, sumY]
    ring

protected theorem zero_add (P : EdwardsPoint F d) : 0 + P = P := by
  ext
  · simp [add_x, sumX, cross]
  · simp [add_y, sumY, cross]

protected theorem neg_add_cancel (P : EdwardsPoint F d) : -P + P = 0 := by
  have hminus := one_sub_cross_ne_zero (-P) P
  ext
  · rw [add_x, sumX, neg_x, neg_y, zero_x, div_eq_zero_iff]
    left
    ring
  · rw [add_y, zero_y, div_eq_one_iff_eq hminus]
    simp only [sumY, cross, neg_x, neg_y]
    linear_combination P.lies

/-- The product of the coordinates of three points, without the denominators of two of them. -/
def cross₃ (P Q R : EdwardsPoint F d) : F := d * sumX P Q * sumY P Q * R.x * R.y

theorem cross_add (P Q R : EdwardsPoint F d) :
    cross (P + Q) R = cross₃ P Q R / ((1 + cross P Q) * (1 - cross P Q)) := by
  have hplus := one_add_cross_ne_zero P Q
  have hminus := one_sub_cross_ne_zero P Q
  rw [cross, add_x, add_y, cross₃]
  field_simp

theorem add_add_x (P Q R : EdwardsPoint F d) : (P + Q + R).x =
    (sumX P Q * (1 - cross P Q) * R.y + sumY P Q * (1 + cross P Q) * R.x) /
      ((1 + cross P Q) * (1 - cross P Q) + cross₃ P Q R) := by
  have hplus := one_add_cross_ne_zero P Q
  have hminus := one_sub_cross_ne_zero P Q
  have hall := one_add_cross_ne_zero (P + Q) R
  rw [cross_add] at hall
  rw [add_x, cross_add, sumX, add_x, add_y]
  field_simp

theorem add_cross₃_ne_zero (P Q R : EdwardsPoint F d) :
    (1 + cross P Q) * (1 - cross P Q) + cross₃ P Q R ≠ 0 := by
  have hproduct := mul_ne_zero (one_add_cross_ne_zero P Q) (one_sub_cross_ne_zero P Q)
  have hall := one_add_cross_ne_zero (P + Q) R
  rw [cross_add, one_add_div hproduct] at hall
  exact (div_ne_zero_iff.mp hall).1

/-- The sum of three points has the same first coordinate however they are put together, as fractions
whose products across differ by a multiple of `d x₂ y₂`. -/
theorem add_assoc_x (P Q R : EdwardsPoint F d) : (P + Q + R).x = (P + (Q + R)).x := by
  rw [EdwardsPoint.add_comm P (Q + R), add_add_x, add_add_x,
    div_eq_div_iff (add_cross₃_ne_zero P Q R) (add_cross₃_ne_zero Q R P)]
  obtain ⟨x₁, y₁, h₁⟩ := P
  obtain ⟨x₂, y₂, h₂⟩ := Q
  obtain ⟨x₃, y₃, h₃⟩ := R
  simp only [sumX, sumY, cross, cross₃]
  -- What is left of the difference holds by the equations of the three points alone.
  have hquotient : (x₁ * y₂ * y₃ + y₁ * x₂ * y₃ + y₁ * y₂ * x₃ + x₁ * x₂ * x₃) *
      (d * x₂ * y₂ * ((x₁ * y₁) ^ 2 - (x₃ * y₃) ^ 2) + x₁ * y₁ * (x₃ ^ 2 + y₃ ^ 2) -
        x₃ * y₃ * (x₁ ^ 2 + y₁ ^ 2)) =
      x₁ * y₁ * (x₁ * y₂ * y₃ + y₁ * x₂ * y₃ - y₁ * y₂ * x₃ - x₁ * x₂ * x₃) *
        (1 - (d * x₂ * y₂ * x₃ * y₃) ^ 2 + d * (x₁ * y₁) *
          (x₂ * y₂ * (x₃ ^ 2 + y₃ ^ 2) + x₃ * y₃ * (x₂ ^ 2 + y₂ ^ 2))) -
      x₃ * y₃ * (y₁ * x₂ * y₃ + y₁ * y₂ * x₃ - x₁ * y₂ * y₃ - x₁ * x₂ * x₃) *
        (1 - (d * x₁ * y₁ * x₂ * y₂) ^ 2 + d * (x₃ * y₃) *
          (x₁ * y₁ * (x₂ ^ 2 + y₂ ^ 2) + x₂ * y₂ * (x₁ ^ 2 + y₁ ^ 2))) := by
    grind
  linear_combination d * x₂ * y₂ * hquotient

/-- The sum with a point of the order four. -/
def rotate {i : F} (hi : -1 = i * i) (P : EdwardsPoint F d) : EdwardsPoint F d :=
  ⟨i * P.y, i * P.x, by linear_combination P.lies + (P.y ^ 2 - P.x ^ 2 +
    d * P.x ^ 2 * P.y ^ 2 * (i * i - 1)) * hi⟩

theorem add_rotate {i : F} (hi : -1 = i * i) (P Q : EdwardsPoint F d) :
    P + rotate hi Q = rotate hi (P + Q) := by
  have hX : sumX P (rotate hi Q) = i * sumY P Q := by
    simp only [sumX, sumY, rotate]
    ring
  have hY : sumY P (rotate hi Q) = i * sumX P Q := by
    simp only [sumX, sumY, rotate]
    ring
  have hcross : cross P (rotate hi Q) = -cross P Q := by
    simp only [cross, rotate]
    linear_combination -d * P.x * Q.y * P.y * Q.x * hi
  ext
  · rw [add_x, hX, hcross, ← sub_eq_add_neg, mul_div_assoc]
    rfl
  · rw [add_y, hY, hcross, sub_neg_eq_add, mul_div_assoc]
    rfl

/-- The second coordinate of a sum is the first one of a rotated sum. -/
protected theorem add_assoc (P Q R : EdwardsPoint F d) : P + Q + R = P + (Q + R) := by
  obtain ⟨i, hi⟩ := square.out
  have hne : i ≠ 0 := by
    rintro rfl
    simp at hi
  ext
  · exact add_assoc_x P Q R
  · have h := add_assoc_x P Q (rotate hi R)
    rw [add_rotate, add_rotate, add_rotate] at h
    exact mul_left_cancel₀ hne h

instance : AddCommGroup (EdwardsPoint F d) where
  toAddGroup := AddGroup.ofLeftAxioms EdwardsPoint.add_assoc EdwardsPoint.zero_add
    EdwardsPoint.neg_add_cancel
  add_comm := EdwardsPoint.add_comm

end Complete

end EdwardsPoint
end RelayClient
