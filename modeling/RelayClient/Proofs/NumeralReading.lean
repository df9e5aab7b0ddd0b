import Mathlib.Data.List.TakeWhile
import RelayClient.Conversion
import RelayClient.Proofs.EncodingFaults

/-!
# Integers read back from free text

An integer that is written out holds no blank and no underscore, so that all of its digits are read
and nothing is left behind them.
-/
namespace RelayClient

namespace Numeral

theorem ascii_map_ofChar {cs : List Char} (h : ∀ c ∈ cs, c.toNat < 0x7F) :
    ascii (cs.map CodePoint.ofChar) = cs := by
  rw [ascii, List.map_map]
  calc
    _ = cs.map id := List.map_congr_left fun c hc => by
      simp only [Function.comp_apply, CodePoint.ofChar, if_pos (h c hc), Char.ofNat_toNat, id]
    _ = cs := List.map_id cs

theorem strip_eq_self {s : List Char} (h : ∀ c ∈ s, isBlank c = false) : strip s = s := by
  have hdrop : ∀ r : List Char, (∀ c ∈ r, isBlank c = false) → r.dropWhile isBlank = r := by
    intro r hr
    cases r with
    | nil => rfl
    | cons c r => rw [List.dropWhile_cons_of_neg]; simp [hr c]
  rw [strip, hdrop s h, hdrop, List.reverse_reverse]
  intro c hc
  exact h c (List.mem_reverse.mp hc)

/-- A row of digits without underscores is one group. -/
theorem ungroup_digits (afterDigit : Bool) {ds : List Char} (h : ∀ c ∈ ds, isDigit c)
    (hne : afterDigit ∨ ds ≠ []) : ungroup afterDigit ds = some ds := by
  induction ds generalizing afterDigit with
  | nil => simp_all [ungroup]
  | cons c ds ih =>
    obtain ⟨hc, hds⟩ := List.forall_mem_cons.mp h
    have hunderscore : c ≠ '_' := by
      rintro rfl
      exact absurd hc (by decide)
    rw [ungroup, if_neg hunderscore, if_pos hc, ih true hds (.inl rfl)]
    rfl

theorem isDigit_of_mem_toDigits {n : Nat} {c : Char} (h : c ∈ Nat.toDigits 10 n) : isDigit c :=
  Nat.isDigit_of_mem_toDigits (by decide) (by decide) h

theorem of_isDigit {c : Char} (h : isDigit c) :
    c.toNat < 0x7F ∧ isBlank c = false ∧ isGrouped c ∧ c ≠ '-' ∧ c ≠ '+' := by
  have hrange : 48 ≤ c.toNat ∧ c.toNat ≤ 57 := by
    simp only [isDigit, Bool.and_eq_true, decide_eq_true_eq, Char.le_def, UInt32.le_iff_toNat_le] at h
    exact h
  have htable : ∀ n < 58, 48 ≤ n → (Char.ofNat n).toNat < 0x7F ∧ isBlank (Char.ofNat n) = false ∧
      isGrouped (Char.ofNat n) ∧ Char.ofNat n ≠ '-' ∧ Char.ofNat n ≠ '+' := by
    decide
  have hc := htable c.toNat (by omega) hrange.1
  rwa [Char.ofNat_toNat] at hc

/-- Digits with nothing but a sign in front are read up to their end. -/
theorem integer?_map_ofChar {cs ds : List Char} {negative : Bool}
    (hcs : ∀ c ∈ cs, c.toNat < 0x7F ∧ isBlank c = false) (hsign : sign cs = (negative, ds))
    (hds : ∀ c ∈ ds, isDigit c) (hne : ds ≠ []) :
    integer? (cs.map CodePoint.ofChar) = some ⟨negative, ds, []⟩ := by
  have hgrouped : ∀ c ∈ ds, isGrouped c := fun c hc => (of_isDigit (hds c hc)).2.2.1
  have hread : sign (strip (ascii (cs.map CodePoint.ofChar))) = (negative, ds) := by
    rw [ascii_map_ofChar fun c hc => (hcs c hc).1, strip_eq_self fun c hc => (hcs c hc).2, hsign]
  simp only [integer?, hread, List.takeWhile_eq_self_iff.mpr hgrouped,
    List.dropWhile_eq_nil_iff.mpr hgrouped, ungroup_digits false hds (.inr hne), Option.map_some]

theorem integer?_ofInt (n : Int) :
    integer? (Text.ofInt n) = some ⟨decide (n < 0), Nat.toDigits 10 n.natAbs, []⟩ := by
  have hds : ∀ c ∈ Nat.toDigits 10 n.natAbs, isDigit c := fun c => isDigit_of_mem_toDigits
  have hascii : ∀ c ∈ Nat.toDigits 10 n.natAbs, c.toNat < 0x7F ∧ isBlank c = false :=
    fun c hc => ⟨(of_isDigit (hds c hc)).1, (of_isDigit (hds c hc)).2.1⟩
  have hne : Nat.toDigits 10 n.natAbs ≠ [] := Nat.toDigits_ne_nil
  rw [Text.ofInt, ofNat_eq_map]
  split
  · rename_i hnegative
    rw [decide_eq_true hnegative, ← List.map_cons]
    refine integer?_map_ofChar ?_ rfl hds hne
    rw [List.forall_mem_cons]
    exact ⟨by decide, hascii⟩
  · rename_i hnegative
    rw [decide_eq_false hnegative]
    refine integer?_map_ofChar hascii ?_ hds hne
    obtain ⟨c, r, hr⟩ := List.exists_cons_of_ne_nil hne
    have hc := of_isDigit (hds c (hr ▸ List.mem_cons_self ..))
    rw [hr]
    unfold sign
    split <;> simp_all

end Numeral

theorem Value.toInteger_ofInt {n : Int} (h : n.natAbs < Nat.pow 10 maxDigits) :
    (Value.text (Text.ofInt n)).toInteger = .ok n := by
  have hlength : (Nat.toDigits 10 n.natAbs).length ≤ maxDigits :=
    (Json.length_toDigits_le_iff n.natAbs (show 0 < maxDigits by decide)).mpr h
  have hvalue : Numeral.value (Nat.toDigits 10 n.natAbs) = n.natAbs := Nat.ofDigitChars_ten_toDigits
  rw [toInteger, Numeral.integer?_ofInt, integerOf, if_neg (Nat.not_lt.mpr hlength)]
  simp only [List.isEmpty_nil, if_true, Numeral.Integer.value, hvalue, decide_eq_true_eq]
  split
  · rw [Int.ofNat_natAbs_of_nonpos (by omega), Int.neg_neg]
  · rw [Int.natAbs_of_nonneg (by omega)]

end RelayClient
