import RelayClient.JsonBytes
import RelayClient.Proofs.GoJson

/-!
# UTF-8 read back

The reader takes the bytes of one code point after the other, so what was written is read again
whatever follows it. A document begins with ASCII and holds no zero byte, which is how its encoding
is recognised.
-/
namespace RelayClient.Utf8

private theorem toNat_ofNat {k : Nat} (h : k < 256) : (UInt8.ofNat k).toNat = k := by
  simp [UInt8.toNat_ofNat', Nat.mod_eq_of_lt h]

section Continuation

variable {s : Bool} {bits m low high : Nat} (r : Bytes) (hl : low ≤ 0x80 + m % 64)
  (hh : 0x80 + m % 64 ≤ high)

include hl hh

private theorem items_last :
    items s (some ⟨bits, 1, low, high⟩) (UInt8.ofNat (0x80 + m % 64) :: r) =
      some (CodePoint.ofNat (bits * 64 + m % 64)) :: items s none r := by
  rw [items, toNat_ofNat (by omega), if_pos ⟨hl, hh⟩, if_pos rfl, Nat.add_sub_cancel_left]

private theorem items_more (missing : Nat) :
    items s (some ⟨bits, missing + 2, low, high⟩) (UInt8.ofNat (0x80 + m % 64) :: r) =
      items s (some ⟨bits * 64 + m % 64, missing + 1, 0x80, 0xBF⟩) r := by
  rw [items, toNat_ofNat (by omega), if_pos ⟨hl, hh⟩, Nat.add_sub_cancel_left]
  rfl

end Continuation

private theorem lead_two {n : Nat} (s : Bool) (h : 0x80 ≤ n) (h' : n < 0x800) :
    lead s (UInt8.ofNat (0xC0 + n / 64)) = .opens ⟨n / 64, 1, 0x80, 0xBF⟩ := by
  rw [lead, toNat_ofNat (by omega)]
  simp (disch := omega) only [if_neg, if_pos, Nat.add_sub_cancel_left]

/-- Surrogates would be read here as well, were they not left out by the range of the next byte. -/
private theorem lead_three {n : Nat} {s : Bool} (h : 0x800 ≤ n) (h' : n < 0x10000)
    (hs : s = true ∨ n < 0xD800 ∨ 0xDFFF < n) :
    ∃ low high, lead s (UInt8.ofNat (0xE0 + n / 4096)) = .opens ⟨n / 4096, 2, low, high⟩ ∧
      low ≤ 0x80 + n / 64 % 64 ∧ 0x80 + n / 64 % 64 ≤ high := by
  rw [lead, toNat_ofNat (by omega)]
  by_cases he : n / 4096 = 0
  · exact ⟨0xA0, 0xBF, by simp [he], by omega, by omega⟩
  by_cases hd : n / 4096 = 0xD ∧ s = false
  · exact ⟨0x80, 0x9F, by simp [hd], by omega, by simp [hd.2] at hs; omega⟩
  · have hd' : (decide (0xE0 + n / 4096 = 0xED) && !s) = false := by
      rw [Bool.and_eq_false_iff, decide_eq_false_iff_not, Bool.not_eq_false']
      cases s
      · exact .inl (by simp at hd; omega)
      · exact .inr rfl
    refine ⟨0x80, 0xBF, ?_, by omega, by omega⟩
    simp (disch := omega) only [if_neg, hd', if_pos, Nat.add_sub_cancel_left, Bool.false_eq_true,
      if_false]

private theorem lead_four {n : Nat} (s : Bool) (h : 0x10000 ≤ n) (h' : n < 0x110000) :
    ∃ low high, lead s (UInt8.ofNat (0xF0 + n / 262144)) = .opens ⟨n / 262144, 3, low, high⟩ ∧
      low ≤ 0x80 + n / 4096 % 64 ∧ 0x80 + n / 4096 % 64 ≤ high := by
  rw [lead, toNat_ofNat (by omega)]
  have hn (x : Nat) : (decide (0xF0 + x = 0xED) && !s) = false := by
    rw [Bool.and_eq_false_iff, decide_eq_false_iff_not]
    exact .inl (by omega)
  by_cases hf : n / 262144 = 0
  · exact ⟨0x90, 0xBF, by simp [hf], by omega, by omega⟩
  by_cases hg : n / 262144 = 4
  · exact ⟨0x80, 0x8F, by simp [hg], by omega, by omega⟩
  · refine ⟨0x80, 0xBF, ?_, by omega, by omega⟩
    simp (disch := omega) only [if_neg, hn, if_pos, Nat.add_sub_cancel_left, Bool.false_eq_true,
      if_false]

theorem items_encodeOne {s : Bool} {c : CodePoint} (h : s ∨ c.isSurrogate = false) (r : Bytes) :
    items s none (encodeOne c ++ r) = some c :: items s none r := by
  have hlt := c.isLt
  have hc := CodePoint.ofNat_val c
  have hs : s = true ∨ c.val < 0xD800 ∨ 0xDFFF < c.val := by
    refine h.imp_right fun h => ?_
    simp only [CodePoint.isSurrogate, Bool.and_eq_false_iff, decide_eq_false_iff_not] at h
    omega
  generalize hn : c.val = n at hlt hc hs
  simp only [encodeOne, hn]
  by_cases h1 : n < 0x80
  · rw [if_pos h1, List.singleton_append, items, lead, toNat_ofNat (by omega)]
    simp [h1, hc]
  rw [if_neg h1]
  by_cases h2 : n < 0x800
  · rw [if_pos h2, List.cons_append, items, lead_two s (by omega) h2]
    dsimp only
    rw [List.singleton_append, items_last r (by omega) (by omega),
      show n / 64 * 64 + n % 64 = n by omega, hc]
  rw [if_neg h2]
  by_cases h3 : n < 0x10000
  · obtain ⟨low, high, hl, hlow, hhigh⟩ := lead_three (by omega) h3 hs
    rw [if_pos h3, List.cons_append, items, hl]
    dsimp only
    rw [List.cons_append, items_more _ hlow hhigh, List.singleton_append,
      items_last r (by omega) (by omega),
      show (n / 4096 * 64 + n / 64 % 64) * 64 + n % 64 = n by omega, hc]
  · obtain ⟨low, high, hl, hlow, hhigh⟩ := lead_four s (by omega) hlt
    rw [if_neg h3, List.cons_append, items, hl]
    dsimp only
    rw [List.cons_append, items_more _ hlow hhigh, List.cons_append,
      items_more _ (by omega) (by omega), List.singleton_append, items_last r (by omega) (by omega),
      show ((n / 262144 * 64 + n / 4096 % 64) * 64 + n / 64 % 64) * 64 + n % 64 = n by omega, hc]

/-- Text is read back from its bytes. -/
theorem items_flatMap_encodeOne {s : Bool} {t : Text} (h : s ∨ t.hasSurrogate = false) :
    items s none (t.flatMap encodeOne) = ReadText.ofText t := by
  induction t with
  | nil => rfl
  | cons c t ih =>
    have hc : s ∨ c.isSurrogate = false := by
      refine h.imp_right fun h => ?_
      simp only [Text.hasSurrogate, List.any_cons, Bool.or_eq_false_iff] at h
      exact h.1
    have ht : s ∨ Text.hasSurrogate t = false := by
      refine h.imp_right fun h => ?_
      simp only [Text.hasSurrogate, List.any_cons, Bool.or_eq_false_iff] at h
      exact h.2
    rw [List.flatMap_cons, items_encodeOne hc, ih ht]
    rfl

theorem ne_zero_of_mem_encodeOne {c : CodePoint} (hc : 0 < c.val) {b : UInt8}
    (hb : b ∈ encodeOne c) : b ≠ 0 := by
  have hlt := c.isLt
  have hz {k : Nat} (hk : k < 256) (hp : 0 < k) : UInt8.ofNat k ≠ 0 := by
    intro h
    have h := congrArg UInt8.toNat h
    rw [toNat_ofNat hk] at h
    exact absurd h (by simpa using (by omega : k ≠ 0))
  simp only [encodeOne] at hb
  split at hb
  · rw [List.mem_singleton.mp hb]
    exact hz (by omega) hc
  split at hb
  · simp only [List.mem_cons, List.not_mem_nil, or_false] at hb
    rcases hb with rfl | rfl <;> exact hz (by omega) (by omega)
  split at hb
  · simp only [List.mem_cons, List.not_mem_nil, or_false] at hb
    rcases hb with rfl | rfl | rfl <;> exact hz (by omega) (by omega)
  · simp only [List.mem_cons, List.not_mem_nil, or_false] at hb
    rcases hb with rfl | rfl | rfl | rfl <;> exact hz (by omega) (by omega)

end RelayClient.Utf8

namespace RelayClient.Json

/-- Bytes that begin with ASCII and of which none is zero are taken for UTF-8. -/
theorem items_eq_utf8 {a : UInt8} {r : Bytes} (ha : a < 0x80) (hz : ∀ b ∈ a :: r, b ≠ 0) :
    items (a :: r) = Utf8.items true none (a :: r) := by
  have hmark {m : UInt8} {ms : Bytes} (hm : m = 0 ∨ ¬ m < 0x80) :
      ¬ (m :: ms).isPrefixOf (a :: r) := by
    rw [List.isPrefixOf_iff_prefix, List.cons_prefix_cons]
    rintro ⟨rfl, -⟩
    exact hm.elim (hz m List.mem_cons_self) (fun h => h ha)
  have hzero : a ≠ 0 := hz a List.mem_cons_self
  unfold items
  rw [if_neg (hmark (.inl rfl)), if_neg (hmark (.inr (by decide))),
    if_neg (hmark (.inr (by decide))), if_neg (hmark (.inr (by decide))),
    if_neg (hmark (.inr (by decide)))]
  split
  · next b c d s heq =>
    obtain ⟨rfl, rfl⟩ := List.cons.inj heq
    rw [if_neg hzero, if_neg (hz b (by simp))]
  · next b heq =>
    obtain ⟨rfl, rfl⟩ := List.cons.inj heq
    rw [if_neg hzero, if_neg (hz b (by simp))]
  · rfl

private theorem intact?_ofText (t : Text) : (ReadText.ofText t).intact? = some t := by
  induction t with
  | nil => rfl
  | cons c t ih =>
    simp only [ReadText.ofText, ReadText.intact?, List.map_cons, List.mapM_cons] at ih ⊢
    simp [ih]

/-- The text of a document is read from its bytes if it begins with ASCII and holds no zero. -/
theorem decodeText?_flatMap_encodeOne {c : CodePoint} {t : Text} (hc : c.val < 0x80)
    (hz : ∀ d ∈ c :: t, 0 < d.val) :
    decodeText? ((c :: t).flatMap Utf8.encodeOne) = some (c :: t) := by
  have hfirst : Utf8.encodeOne c = [UInt8.ofNat c.val] := by simp [Utf8.encodeOne, hc]
  have hbytes : ∀ b ∈ (c :: t).flatMap Utf8.encodeOne, b ≠ 0 := by
    intro b hb
    obtain ⟨d, hd, hb⟩ := List.mem_flatMap.mp hb
    exact Utf8.ne_zero_of_mem_encodeOne (hz d hd) hb
  have hitems := Utf8.items_flatMap_encodeOne (s := true) (t := c :: t) (.inl rfl)
  rw [List.flatMap_cons, hfirst, List.singleton_append] at hbytes hitems ⊢
  have hascii : UInt8.ofNat c.val < 0x80 := by
    rw [UInt8.lt_iff_toNat_lt, Utf8.toNat_ofNat (by omega)]
    exact hc
  rw [decodeText?, items_eq_utf8 hascii hbytes, hitems, intact?_ofText]

end RelayClient.Json
