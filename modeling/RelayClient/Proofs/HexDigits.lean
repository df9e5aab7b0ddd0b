import RelayClient.PublicKey
import RelayClient.Proofs.GoJson

/-!
# Which texts are hexadecimal

A text writes bytes exactly if it consists of an even number of hexadecimal digits; the bytes are
written back as the same text with its letters in lower case.
-/
namespace RelayClient

namespace CodePoint

/-- A digit, or a letter up to `f` in either case. -/
def isHexDigit (c : CodePoint) : Bool :=
  0x30 ≤ c.val && c.val ≤ 0x39 || 0x41 ≤ c.val && c.val ≤ 0x46 || 0x61 ≤ c.val && c.val ≤ 0x66

/-- A small letter in place of a capital one of ASCII. -/
def lower (c : CodePoint) : CodePoint :=
  if 0x41 ≤ c.val && c.val ≤ 0x5A then ofNat (c.val + 0x20) else c

theorem val_lower (c : CodePoint) :
    c.lower.val = if 0x41 ≤ c.val ∧ c.val ≤ 0x5A then c.val + 0x20 else c.val := by
  simp only [lower, Bool.and_eq_true, decide_eq_true_eq]
  split
  · rw [ofNat, dif_pos (by omega)]
  · rfl

@[simp] theorem isHexDigit_lower (c : CodePoint) : c.lower.isHexDigit = c.isHexDigit := by
  have h := c.val_lower
  rw [Bool.eq_iff_iff]
  simp only [isHexDigit, Bool.or_eq_true, Bool.and_eq_true, decide_eq_true_eq]
  split at h <;> omega

end CodePoint

/-- Text without capital letters of ASCII. -/
def Text.lower (t : Text) : Text := t.map CodePoint.lower

@[simp] theorem Text.length_lower (t : Text) : t.lower.length = t.length := List.length_map ..

namespace Hex

/-- An even number of hexadecimal digits and nothing else. -/
structure IsHex (t : Text) : Prop where
  even : t.length % 2 = 0
  digits : ∀ c ∈ t, c.isHexDigit

instance (t : Text) : Decidable (IsHex t) :=
  decidable_of_iff (t.length % 2 = 0 ∧ ∀ c ∈ t, c.isHexDigit)
    ⟨fun h => ⟨h.1, h.2⟩, fun h => ⟨h.even, h.digits⟩⟩

theorem IsHex.cons_cons_iff {h l : CodePoint} {r : Text} :
    IsHex (h :: l :: r) ↔ h.isHexDigit ∧ l.isHexDigit ∧ IsHex r := by
  constructor
  · rintro ⟨even, digits⟩
    rw [List.length_cons, List.length_cons] at even
    simp only [List.forall_mem_cons] at digits
    exact ⟨digits.1, digits.2.1, by omega, digits.2.2⟩
  · rintro ⟨hh, hl, even, digits⟩
    refine ⟨?_, ?_⟩
    · rw [List.length_cons, List.length_cons]
      omega
    · simp only [List.forall_mem_cons]
      exact ⟨hh, hl, digits⟩

theorem IsHex.of_lower_eq {s t : Text} (h : s.lower = t.lower) (ht : IsHex t) : IsHex s where
  even := by
    rw [← Text.length_lower, h, Text.length_lower]
    exact ht.even
  digits := by
    have hall : s.lower.all (·.isHexDigit) := by
      rw [h, Text.lower, List.all_map, List.all_eq_true]
      intro c hc
      rw [Function.comp_apply, CodePoint.isHexDigit_lower]
      exact ht.digits c hc
    rw [Text.lower, List.all_map, List.all_eq_true] at hall
    intro c hc
    have hdigit := hall c hc
    rwa [Function.comp_apply, CodePoint.isHexDigit_lower] at hdigit

theorem val_digit : ∀ n < 16, (digit n : CodePoint).val = if n < 10 then 0x30 + n else 0x57 + n := by
  decide

/-- A digit is read as the number that its small form writes. -/
theorem digitValue?_eq_some_iff {c : CodePoint} {n : Nat} :
    digitValue? c = some n ↔ c.isHexDigit ∧ n < 16 ∧ (digit n : CodePoint) = c.lower := by
  have hlower := c.val_lower
  have hval (hn : n < 16) : (digit n : CodePoint) = c.lower ↔
      (if n < 10 then 0x30 + n else 0x57 + n) = c.lower.val := by
    rw [← val_digit n hn]
    exact ⟨congrArg _, CodePoint.eq_of_val⟩
  simp only [CodePoint.isHexDigit, Bool.or_eq_true, Bool.and_eq_true, decide_eq_true_eq, digitValue?]
  constructor
  · intro h
    have hn : n < 16 := by grind
    refine ⟨by grind, hn, (hval hn).mpr (by grind)⟩
  · rintro ⟨hc, hn, h⟩
    rw [hval hn] at h
    grind

theorem exists_digitValue? {c : CodePoint} (h : c.isHexDigit) : ∃ n, digitValue? c = some n := by
  simp only [CodePoint.isHexDigit, Bool.or_eq_true, Bool.and_eq_true, decide_eq_true_eq] at h
  unfold digitValue?
  split
  · exact ⟨_, rfl⟩
  · split
    · exact ⟨_, rfl⟩
    · rw [if_pos (by omega)]
      exact ⟨_, rfl⟩

/-- Bytes are read from exactly the texts that are their digits, in either case. -/
theorem decode?_eq_some_iff {t : Text} {b : Bytes} :
    decode? t = some b ↔ IsHex t ∧ t.lower = encode b := by
  induction t using decode?.induct generalizing b with
  | case1 =>
    cases b with
    | nil => exact ⟨fun _ => ⟨⟨rfl, nofun⟩, rfl⟩, fun _ => rfl⟩
    | cons x b => exact ⟨nofun, nofun⟩
  | case2 c => exact ⟨nofun, fun h => absurd h.1.even Nat.one_ne_zero⟩
  | case3 h l r ih =>
    simp only [decode?, Option.bind_eq_bind, Option.bind_eq_some_iff, Option.pure_def,
      Option.some.injEq, IsHex.cons_cons_iff, Text.lower, List.map_cons]
    constructor
    · rintro ⟨x, hx, y, hy, bytes, hr, rfl⟩
      obtain ⟨hh, hx16, hxd⟩ := digitValue?_eq_some_iff.mp hx
      obtain ⟨hl, hy16, hyd⟩ := digitValue?_eq_some_iff.mp hy
      obtain ⟨hhex, hlower⟩ := ih.mp hr
      have hbyte : (UInt8.ofNat (16 * x + y)).toNat = 16 * x + y :=
        UInt8.toNat_ofNat_of_lt' (by rw [UInt8.size]; omega)
      have hhigh : (16 * x + y) / 16 = x := by omega
      have hlow : (16 * x + y) % 16 = y := by omega
      rw [encode, hbyte, hhigh, hlow, hxd, hyd, ← hlower]
      exact ⟨⟨hh, hl, hhex⟩, rfl⟩
    · rintro ⟨⟨hh, hl, hhex⟩, hlower⟩
      cases b with
      | nil => cases hlower
      | cons x b =>
        have hx : x.toNat < 256 := x.toNat_lt
        obtain ⟨hxd, hyd, hr⟩ : h.lower = digit (x.toNat / 16) ∧ l.lower = digit (x.toNat % 16) ∧
            Text.lower r = encode b := by simpa [encode, Text.lower] using hlower
        have halves : 16 * (x.toNat / 16) + x.toNat % 16 = x.toNat := by omega
        refine ⟨_, digitValue?_eq_some_iff.mpr ⟨hh, by omega, hxd.symm⟩, _,
          digitValue?_eq_some_iff.mpr ⟨hl, by omega, hyd.symm⟩, b, ih.mpr ⟨hhex, hr⟩, ?_⟩
        rw [halves, UInt8.ofNat_toNat]

/-- The case of the letters does not matter. -/
theorem decode?_eq_of_lower_eq {s t : Text} (h : s.lower = t.lower) : decode? s = decode? t := by
  have hhex : IsHex s ↔ IsHex t := ⟨IsHex.of_lower_eq h.symm, IsHex.of_lower_eq h⟩
  refine Option.ext fun b => ?_
  rw [decode?_eq_some_iff, decode?_eq_some_iff, hhex, h]

/-- Whatever is hexadecimal writes bytes. -/
theorem exists_decode?_iff {t : Text} : (∃ b, decode? t = some b) ↔ IsHex t := by
  constructor
  · rintro ⟨b, hb⟩
    exact (decode?_eq_some_iff.mp hb).1
  · induction t using decode?.induct with
    | case1 => exact fun _ => ⟨[], rfl⟩
    | case2 c => exact fun h => absurd h.even Nat.one_ne_zero
    | case3 h l r ih =>
      intro hhex
      obtain ⟨hh, hl, hr⟩ := IsHex.cons_cons_iff.mp hhex
      obtain ⟨b, hb⟩ := ih hr
      obtain ⟨x, hx⟩ := exists_digitValue? hh
      obtain ⟨y, hy⟩ := exists_digitValue? hl
      exact ⟨_, by rw [decode?, hx, hy, hb]; rfl⟩

theorem isHex_encode (b : Bytes) : IsHex (encode b) := (decode?_eq_some_iff.mp (decode?_encode b)).1

@[simp] theorem lower_encode (b : Bytes) : (encode b).lower = encode b :=
  (decode?_eq_some_iff.mp (decode?_encode b)).2

theorem encode_append (b c : Bytes) : encode (b ++ c) = encode b ++ encode c := by
  induction b with
  | nil => rfl
  | cons x b ih => rw [List.cons_append, encode, ih, encode, List.cons_append, List.cons_append]

theorem length_of_decode? {t : Text} {b : Bytes} (h : decode? t = some b) :
    t.length = 2 * b.length := by
  rw [← Text.length_lower, (decode?_eq_some_iff.mp h).2, length_encode]

theorem decode?_eq_none_iff {t : Text} : decode? t = none ↔ ¬ IsHex t := by
  rw [← exists_decode?_iff, not_exists, Option.eq_none_iff_forall_ne_some]

end Hex

/-- Values that are no text and texts that are not hexadecimal are refused. -/
theorem decodeHex_eq_error_iff {v : Value} {f : Fault} : decodeHex v = .error f ↔
    v.kind ≠ .text ∧ f = .hexNotText ∨ ∃ t, v = .text t ∧ ¬ Hex.IsHex t ∧ f = .hexMalformed t := by
  cases v with
  | text t =>
    have hkind : (Value.text t).kind = .text := rfl
    cases hd : Hex.decode? t with
    | none =>
      have ht := Hex.decode?_eq_none_iff.mp hd
      simp only [decodeHex, hd, hkind, ne_eq, not_true_eq_false, false_and, false_or,
        Except.error.injEq, Value.text.injEq, exists_eq_left', ht, not_false_eq_true, true_and]
      exact eq_comm
    | some b =>
      have ht := Hex.exists_decode?_iff.mp ⟨b, hd⟩
      simp only [decodeHex, hd, hkind, ne_eq, not_true_eq_false, false_and, false_or, reduceCtorEq,
        Value.text.injEq, exists_eq_left', ht]
  | _ => simp [decodeHex, Value.kind, eq_comm]

end RelayClient
