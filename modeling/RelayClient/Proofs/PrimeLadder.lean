import Mathlib.Algebra.BigOperators.Associated
import Mathlib.FieldTheory.Finite.Basic
import RelayClient.Ed25519

/-!
# Primes on a ladder

A number is prime if its least factor is past its root. One less than that factor is a multiple of the
order of every residue; so residues whose orders are known primes, with a product past the root, are
enough. Each rung of a ladder takes these primes from the rungs below it.
-/
namespace RelayClient

open Ed25519 (powMod)

theorem Ed25519.powMod_eq (m base : ℕ) {bits exponent : ℕ} (h : exponent < 2 ^ bits) :
    powMod m base bits exponent = base ^ exponent % m := by
  induction bits generalizing exponent with
  | zero =>
    obtain rfl : exponent = 0 := Nat.lt_one_iff.mp h
    rw [powMod, Nat.pow_zero]
  | succ bits ih =>
    rw [Nat.pow_succ] at h
    have hsquare : base ^ (exponent / 2) * base ^ (exponent / 2) =
        base ^ (exponent / 2 + exponent / 2) := (Nat.pow_add ..).symm
    rw [powMod, ih (by omega), ← Nat.mul_mod, hsquare]
    split
    · have hodd : exponent / 2 + exponent / 2 + 1 = exponent := by omega
      rw [Nat.mod_mul_mod, ← Nat.pow_succ, Nat.succ_eq_add_one, hodd]
    · have heven : exponent / 2 + exponent / 2 = exponent := by omega
      rw [heven]

theorem powMod_eq_one_iff {m base bits exponent : ℕ} (hm : 1 < m) (h : exponent < 2 ^ bits) :
    powMod m base bits exponent = 1 ↔ base ^ exponent ≡ 1 [MOD m] := by
  rw [Ed25519.powMod_eq m base h, Nat.ModEq, Nat.mod_eq_of_lt hm]

/-- Whether some power of two has the order `f`, modulo each factor of `n` as well. -/
def hasOrder (n f : ℕ) : Bool :=
  let b := powMod n 2 256 ((n - 1) / f)
  decide (f < 2 ^ 256) && decide (1 ≤ b) && powMod n b 256 f == 1 && Nat.gcd (b - 1) n == 1

variable {n f : ℕ} {fs known : List ℕ}

/-- Such an order divides the predecessor of the least factor. -/
theorem dvd_of_hasOrder (hn : 1 < n) (hf : f.Prime) (h : hasOrder n f) : f ∣ n.minFac - 1 := by
  simp only [hasOrder, Bool.and_eq_true, decide_eq_true_eq, beq_iff_eq] at h
  obtain ⟨⟨⟨hsize, hb⟩, hpow⟩, hcoprime⟩ := h
  generalize powMod n 2 256 ((n - 1) / f) = b at hb hpow hcoprime
  rw [powMod_eq_one_iff hn hsize] at hpow
  have hfactor : n.minFac.Prime := Nat.minFac_prime (by omega)
  have : Fact n.minFac.Prime := ⟨hfactor⟩
  have hone : (b : ZMod n.minFac) ^ f = 1 := by
    have h := (ZMod.natCast_eq_natCast_iff _ _ _).mpr (hpow.of_dvd n.minFac_dvd)
    rwa [Nat.cast_pow, Nat.cast_one] at h
  have hne : (b : ZMod n.minFac) ≠ 1 := by
    intro h
    rw [← Nat.cast_one, ZMod.natCast_eq_natCast_iff] at h
    have hdvd : n.minFac ∣ b - 1 := (Nat.modEq_iff_dvd' hb).mp h.symm
    exact hfactor.one_lt.ne' (Nat.eq_one_of_dvd_coprimes hcoprime hdvd n.minFac_dvd)
  have hzero : (b : ZMod n.minFac) ≠ 0 := by
    intro h
    rw [h, zero_pow hf.ne_zero] at hone
    exact zero_ne_one hone
  have : Fact f.Prime := ⟨hf⟩
  rw [← orderOf_eq_prime hone hne]
  exact ZMod.orderOf_dvd_card_sub_one hzero

/-- A number is prime if the product of such orders is past its root. -/
theorem prime_of_orders (hn : 1 < n) (hprime : ∀ f ∈ fs, f.Prime) (hnodup : fs.Nodup)
    (horders : ∀ f ∈ fs, hasOrder n f) (hlarge : n < (fs.prod + 1) ^ 2) : n.Prime := by
  by_contra hcomposite
  have hdvd : fs.prod ∣ n.minFac - 1 := by
    have hprod : fs.prod = ∏ f ∈ fs.toFinset, f := by
      rw [List.prod_toFinset _ hnodup, List.map_id']
    rw [hprod]
    refine Finset.prod_primes_dvd _ (fun f hf => ?_) fun f hf => ?_
    · exact (hprime f (List.mem_toFinset.mp hf)).prime
    · have hf := List.mem_toFinset.mp hf
      exact dvd_of_hasOrder hn (hprime f hf) (horders f hf)
  have htwo : 2 ≤ n.minFac := (Nat.minFac_prime (by omega)).two_le
  have hle : fs.prod ≤ n.minFac - 1 := Nat.le_of_dvd (by omega) hdvd
  have hsquare : (fs.prod + 1) ^ 2 ≤ n.minFac ^ 2 := Nat.pow_le_pow_left (by omega) 2
  have hminFac : n.minFac ^ 2 ≤ n := Nat.minFac_sq_le_self (by omega) hcomposite
  omega

/-- Rungs above known primes: numbers with the primes that show them to be prime. -/
def isLadder : List ℕ → List (ℕ × List ℕ) → Bool
  | _, [] => true
  | known, (n, fs) :: rungs =>
    decide (1 < n) && decide fs.Nodup && fs.all (fun f => decide (f ∈ known) && hasOrder n f) &&
      decide (n < (fs.prod + 1) ^ 2) && isLadder (n :: known) rungs

theorem prime_of_isLadder {rungs : List (ℕ × List ℕ)} (hknown : ∀ f ∈ known, f.Prime)
    (h : isLadder known rungs) : ∀ rung ∈ rungs, rung.1.Prime := by
  induction rungs generalizing known with
  | nil => exact fun _ hrung => absurd hrung List.not_mem_nil
  | cons rung rungs ih =>
    obtain ⟨n, fs⟩ := rung
    simp only [isLadder, Bool.and_eq_true, decide_eq_true_eq, List.all_eq_true] at h
    obtain ⟨⟨⟨⟨hn, hnodup⟩, hall⟩, hlarge⟩, hrungs⟩ := h
    have hprime : n.Prime := prime_of_orders hn (fun f hf => hknown f (hall f hf).1) hnodup
      (fun f hf => (hall f hf).2) hlarge
    rw [List.forall_mem_cons]
    exact ⟨hprime, ih (List.forall_mem_cons.mpr ⟨hprime, hknown⟩) hrungs⟩

end RelayClient
