import RelayClient.JsonReader
import RelayClient.Proofs.GoJson

/-!
# Integers read back

The digits of an integer are read up to the comma, the bracket or the end of the document behind
them, so that no point or exponent is found.
-/
namespace RelayClient.Json

/-- What may stand behind a value in a document: nothing, a comma or a closing bracket. -/
def Ends : Text → Prop
  | [] => True
  | c :: _ => c = ',' ∨ c = ']' ∨ c = '}'

theorem Ends.not_digit {c : CodePoint} {r : Text} (h : Ends (c :: r)) : c.isDigit = false := by
  rcases h with rfl | rfl | rfl <;> decide

private theorem takeWhile_digits {ds r : Text} (hd : ∀ c ∈ ds, c.isDigit) (hr : Ends r) :
    (ds ++ r).takeWhile (·.isDigit) = ds ∧ (ds ++ r).dropWhile (·.isDigit) = r := by
  rw [List.takeWhile_append_of_pos hd, List.dropWhile_append_of_pos hd]
  cases r with
  | nil => simp
  | cons c r => simp [hr.not_digit]

theorem fractionPart_ends {r : Text} (hr : Ends r) : fractionPart r = none := by
  cases r with
  | nil => rfl
  | cons c r =>
    have hc : c ≠ '.' := by rcases hr with rfl | rfl | rfl <;> decide
    simp [fractionPart, hc]

theorem exponentPart_ends {r : Text} (hr : Ends r) : exponentPart r = none := by
  cases r with
  | nil => rfl
  | cons c r =>
    have hc : c ≠ 'e' ∧ c ≠ 'E' := by rcases hr with rfl | rfl | rfl <;> decide
    simp [exponentPart, hc]

private theorem toDigits_head {n : Nat} (h : 0 < n) :
    ∃ c r, Nat.toDigits 10 n = c :: r ∧ c ≠ '0' := by
  induction n using Nat.strongRecOn with
  | ind n ih =>
    rw [Nat.toDigits_eq_if (by decide)]
    split
    · rename_i hn
      refine ⟨_, _, rfl, ?_⟩
      have : ∀ n < 10, 0 < n → Nat.digitChar n ≠ '0' := by decide
      exact this n hn h
    · obtain ⟨c, r, hr, hc⟩ := ih (n / 10) (by omega) (by omega)
      exact ⟨c, r ++ [Nat.digitChar (n % 10)], by rw [hr, List.cons_append], hc⟩

theorem value_digits_ofNat (n : Nat) : Numeral.value (digits (Text.ofNat n)) = n := by
  rw [digits, ofNat_eq_map, List.map_map]
  have : ((fun c : CodePoint => Char.ofNat c.val) ∘ CodePoint.ofChar) = id := by
    funext c
    exact Char.ofNat_toNat c
  rw [this, List.map_id]
  exact Nat.ofDigitChars_ten_toDigits

theorem isDigit_of_mem_ofNat {n : Nat} : ∀ c ∈ Text.ofNat n, c.isDigit := by
  intro c hc
  rw [ofNat_eq_map] at hc
  obtain ⟨d, hd, rfl⟩ := List.mem_map.mp hc
  exact ofChar_isDigit (Nat.isDigit_of_mem_toDigits (by decide) (by decide) hd)

theorem ofNat_eq_cons (n : Nat) : ∃ c ds, Text.ofNat n = c :: ds ∧ c.isDigit := by
  have hmem := isDigit_of_mem_ofNat (n := n)
  cases h : Text.ofNat n with
  | nil =>
    rw [ofNat_eq_map] at h
    exact absurd (List.map_eq_nil_iff.mp h) Nat.toDigits_ne_nil
  | cons c ds => exact ⟨c, ds, rfl, hmem c (by rw [h]; exact List.mem_cons_self ..)⟩

theorem wholePart_ofNat (n : Nat) {r : Text} (hr : Ends r) :
    wholePart (Text.ofNat n ++ r) = some (Text.ofNat n, r) := by
  rcases Nat.eq_zero_or_pos n with rfl | hn
  · rfl
  · obtain ⟨c, ds, hds, hc⟩ := toDigits_head hn
    have hmem := isDigit_of_mem_ofNat (n := n)
    have he : Text.ofNat n = CodePoint.ofChar c :: ds.map CodePoint.ofChar := by
      rw [ofNat_eq_map, hds, List.map_cons]
    rw [he] at hmem ⊢
    have hz : CodePoint.ofChar c ≠ CodePoint.ofChar '0' := by
      intro h
      exact hc (Char.toNat_inj.mp (congrArg CodePoint.val h))
    have ht := takeWhile_digits (fun d hd => hmem d (List.mem_cons_of_mem _ hd)) hr
    rw [List.cons_append, wholePart, if_neg hz, if_pos (hmem _ (List.mem_cons_self ..)), ht.1, ht.2]

private theorem length_ofNat_le {n k : Nat} (hk : 0 < k) (hn : n < Nat.pow 10 k) :
    (Text.ofNat n).length ≤ k := by
  rw [ofNat_eq_map, List.length_map]
  exact (Nat.length_toDigits_le_iff (by decide) hk).mpr hn

theorem readNumber_ofNat (negative : Bool) {n : Nat} (hn : n < Nat.pow 10 maxDigits) {r : Text}
    (hr : Ends r) :
    readNumber negative (Text.ofNat n ++ r) = some (.int (if negative then -n else n), r) := by
  have hlen : ¬ (Text.ofNat n).length > maxDigits :=
    Nat.not_lt.mpr (length_ofNat_le (by decide) hn)
  rw [readNumber, wholePart_ofNat n hr]
  simp only [Option.bind_eq_bind, Option.bind_some, fractionPart_ends hr, exponentPart_ends hr,
    if_neg hlen, value_digits_ofNat]

/-- An integer is read back with its sign, if it is not too long. -/
theorem readAtom_ofInt {n : Int} (hn : n.natAbs < Nat.pow 10 maxDigits) {r : Text} (hr : Ends r) :
    readAtom (Text.ofInt n ++ r) = some (.int n, r) := by
  have hpos := readNumber_ofNat false hn hr
  have hneg := readNumber_ofNat true hn hr
  obtain ⟨c, ds, hds, hc⟩ := ofNat_eq_cons n.natAbs
  have hword : ∀ d ∈ [CodePoint.ofChar 'n', 't', 'f', 'N', 'I', '-'], c ≠ d := by
    rintro d hd rfl
    have hall : ∀ d ∈ [CodePoint.ofChar 'n', 't', 'f', 'N', 'I', '-'], d.isDigit = false := by
      decide
    simp [hall c hd] at hc
  simp only [List.mem_cons, List.not_mem_nil, or_false, forall_eq_or_imp, forall_eq] at hword
  unfold Text.ofInt
  split
  · rename_i hlt
    have hb : behind? "Infinity" (Text.ofNat n.natAbs ++ r) = none := by
      rw [hds, behind?, if_neg]
      intro h
      exact hword.2.2.2.2.1 ((List.cons_prefix_cons.mp (List.isPrefixOf_iff_prefix.mp h)).1).symm
    have hn' : -(n.natAbs : Int) = n := by omega
    rw [List.cons_append, readAtom, if_neg (by decide), if_neg (by decide), if_neg (by decide),
      if_neg (by decide), if_neg (by decide), if_pos rfl, hb, hneg, if_pos rfl, hn']
  · rename_i hlt
    rw [hds] at hpos ⊢
    simp only [List.cons_append, readAtom, hword, if_false]
    have hn' : (n.natAbs : Int) = n := by omega
    rw [← List.cons_append, hpos, if_neg Bool.false_ne_true, hn']

end RelayClient.Json
