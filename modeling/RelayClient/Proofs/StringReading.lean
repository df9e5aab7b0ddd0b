import RelayClient.JsonReader
import RelayClient.Proofs.GoJson

/-!
# Strings read back

What the one-pass writer makes of a text is read as the same text, whatever stands behind the
closing quote. An escape by number is never that of a surrogate, so that no two are joined.
-/
namespace RelayClient.Json
open GoJson

/-- The piece of a string that the reader makes of a written character. -/
def pieceOf (c : CodePoint) : Piece :=
  if char c = numericEscape c then .escaped c else .plain c

def Piece.code : Piece → CodePoint
  | plain c => c
  | escaped c => c

theorem code_pieceOf (c : CodePoint) : (pieceOf c).code = c := by
  unfold pieceOf
  split <;> rfl

theorem quad?_fixed {n : Nat} (h : n < 0x10000) : ∃ a b c d : CodePoint,
    Hex.fixed 4 n = [a, b, c, d] ∧ quad? a b c d = some (CodePoint.ofNat n) := by
  have hd (m : Nat) := Hex.digitValue?_digit (m % 16) (Nat.mod_lt m (by decide))
  refine ⟨_, _, _, _, rfl, ?_⟩
  simp only [quad?, hd, Option.bind_eq_bind, Option.bind_some, Option.pure_def]
  congr 2
  omega

private theorem scanString_letter {c e : CodePoint} (he : shortEscape? e = some c) (hu : e ≠ 'u')
    (s : Text) : scanString (CodePoint.ofChar '\\' :: e :: s) =
      (scanString s).map fun p => (.plain c :: p.1, p.2) := by
  rw [scanString.eq_def]
  simp only [show CodePoint.ofChar '\\' ≠ CodePoint.ofChar '"' by decide, if_false, if_true, hu, he]
  cases scanString s <;> rfl

private theorem scanString_number {c h₁ h₂ h₃ h₄ : CodePoint} (hq : quad? h₁ h₂ h₃ h₄ = some c)
    (s : Text) :
    scanString (CodePoint.ofChar '\\' :: CodePoint.ofChar 'u' :: h₁ :: h₂ :: h₃ :: h₄ :: s) =
      (scanString s).map fun p => (.escaped c :: p.1, p.2) := by
  rw [scanString.eq_def]
  simp only [show CodePoint.ofChar '\\' ≠ CodePoint.ofChar '"' by decide, if_false, if_true, hq]
  cases scanString s <;> rfl

private theorem scanString_self {c : CodePoint} (hquote : c ≠ '"') (hslash : c ≠ '\\')
    (hl : 0x20 ≤ c.val) (s : Text) :
    scanString (c :: s) = (scanString s).map fun p => (.plain c :: p.1, p.2) := by
  rw [scanString.eq_def]
  simp only [hquote, hslash, if_false, if_neg (show ¬ c.val < 0x20 by omega)]
  cases scanString s <;> rfl

/-- Each written character is scanned as one piece, whatever follows. -/
theorem scanString_char (c : CodePoint) (s : Text) :
    scanString (char c ++ s) = (scanString s).map fun p => (pieceOf c :: p.1, p.2) := by
  have hletter : ∀ e ∈ shortEscapes, shortEscape? e.2 = some e.1 ∧ e.2 ≠ 'u' ∧
      char e.1 ≠ numericEscape e.1 := by decide
  rcases char_cases c with ⟨d, hd, hc⟩ | ⟨hc, hl⟩ | ⟨hc, hquote, hslash, hl⟩
  · obtain ⟨he, hu, hn⟩ := hletter _ hd
    rw [pieceOf, if_neg hn, hc]
    exact scanString_letter he hu s
  · obtain ⟨h₁, h₂, h₃, h₄, hf, hq⟩ := quad?_fixed (n := c.val) (by omega)
    rw [CodePoint.ofNat_val] at hq
    rw [pieceOf, if_pos hc, hc, numericEscape, hf]
    exact scanString_number hq s
  · have hn : char c ≠ numericEscape c := by
      rw [hc, numericEscape]
      simp
    rw [pieceOf, if_neg hn, hc]
    exact scanString_self hquote hslash hl s

theorem scanString_flatMap_char (t r : Text) :
    scanString (t.flatMap char ++ CodePoint.ofChar '"' :: r) = some (t.map pieceOf, r) := by
  induction t with
  | nil =>
    rw [List.flatMap_nil, List.nil_append, scanString.eq_def]
    rfl
  | cons c t ih =>
    rw [List.flatMap_cons, List.append_assoc, scanString_char, ih]
    rfl

/-- Pieces of which none is the escape of a high surrogate are not joined. -/
theorem joinPairs_eq_map {ps : List Piece} (h : ∀ c, .escaped c ∈ ps → c.isHighSurrogate = false) :
    joinPairs ps = ps.map Piece.code := by
  induction ps with
  | nil => rfl
  | cons p ps ih =>
    have ht := ih fun c hc => h c (List.mem_cons_of_mem _ hc)
    cases ps with
    | nil => cases p <;> rfl
    | cons q ps =>
      cases p with
      | plain c => rw [joinPairs, ht, List.map_cons]; rfl
      | escaped c =>
        have hc := h c (List.mem_cons_self ..)
        cases q with
        | plain d => rw [joinPairs, ht, List.map_cons]; rfl; nofun
        | escaped d => rw [joinPairs, hc, Bool.false_and, ht]; rfl

private theorem lt_of_char_eq {c : CodePoint} (h : char c = numericEscape c) : c.val < 0x2030 := by
  have hshort : ∀ e ∈ shortEscapes, e.1.val < 0x2030 := by decide
  rcases char_cases c with ⟨d, hd, -⟩ | ⟨-, hl⟩ | ⟨hc, -⟩
  · exact hshort _ hd
  · exact hl
  · rw [h, numericEscape] at hc
    cases hc

/-- A text is read back from its string, whatever stands behind the closing quote. -/
theorem readString_flatMap_char (t r : Text) :
    readString (t.flatMap char ++ CodePoint.ofChar '"' :: r) = some (t, r) := by
  have hlow (c : CodePoint) (hc : .escaped c ∈ t.map pieceOf) : c.isHighSurrogate = false := by
    obtain ⟨d, -, hd⟩ := List.mem_map.mp hc
    unfold pieceOf at hd
    split at hd
    · rename_i hn
      cases hd
      have hv := lt_of_char_eq hn
      rw [CodePoint.isHighSurrogate, Bool.and_eq_false_iff, decide_eq_false_iff_not]
      exact .inl (by omega)
    · cases hd
  rw [readString, scanString_flatMap_char]
  simp [joinPairs_eq_map hlow, Function.comp_def, code_pieceOf]

end RelayClient.Json
