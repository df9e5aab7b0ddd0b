import Mathlib.Algebra.Group.Nat.Defs
import RelayClient.Proofs.HeaderOrder
import RelayClient.RelayDocument
import RelayClient.Utf8

/-!
# Keys in Go's order

Go writes the keys of a map in the order of their bytes. Texts are compared by code point here, which
comes to the same: UTF-8 writes a code point as digits to the base 64, the first one with a mark that
grows with their number.
-/
namespace RelayClient

namespace Utf8

/-- The bytes for the last so many digits of a number to the base 64. -/
def digits (n : Nat) : Nat → Bytes
  | 0 => []
  | k + 1 => UInt8.ofNat (0x80 + n / 64 ^ k % 64) :: digits n k

def continuations (n : Nat) : Nat :=
  if n < 0x80 then 0 else if n < 0x800 then 1 else if n < 0x10000 then 2 else 3

/-- The least lead byte that so many bytes may follow. -/
def mark : Nat → Nat
  | 0 => 0
  | 1 => 0xC0
  | 2 => 0xE0
  | 3 => 0xF0
  | _ => 0xF8

section Numbers

variable {m n j k : Nat}

theorem continuations_mono (h : m ≤ n) : continuations m ≤ continuations n := by
  grind [continuations]

theorem continuations_cases (n : Nat) : n < 0x80 ∧ continuations n = 0 ∨
    n < 0x800 ∧ continuations n = 1 ∨ n < 0x10000 ∧ continuations n = 2 ∨ continuations n = 3 := by
  grind [continuations]

theorem mark_le_succ (k : Nat) : mark k ≤ mark (k + 1) := by
  match k with
  | 0 | 1 | 2 | 3 => decide
  | _ + 4 => exact Nat.le_refl _

theorem mark_mono (h : j ≤ k) : mark j ≤ mark k := by
  induction h with
  | refl => exact Nat.le_refl _
  | step _ ih => exact Nat.le_trans ih (mark_le_succ _)

/-- What the lead byte of a number is: its mark with the first digit. -/
def leading (n : Nat) : Nat := mark (continuations n) + n / 64 ^ continuations n

theorem leading_lt_mark (hn : n < 0x110000) : leading n < mark (continuations n + 1) := by
  rw [leading]
  rcases continuations_cases n with ⟨hlt, hk⟩ | ⟨hlt, hk⟩ | ⟨hlt, hk⟩ | hk
  all_goals
    rw [hk]
    simp only [mark]
    omega

theorem toNat_leading (hn : n < 0x110000) : (UInt8.ofNat (leading n)).toNat = leading n := by
  have hmark : mark (continuations n + 1) ≤ 0xF8 := mark_mono (Nat.le_add_right _ 4)
  have hlt := leading_lt_mark hn
  rw [UInt8.toNat_ofNat', Nat.mod_eq_of_lt (by omega)]

/-- A greater number has a greater lead byte, or the same one and greater digits behind it. -/
theorem leading_lt_or_eq (hm : m < 0x110000) (h : m < n) : leading m < leading n ∨
    leading m = leading n ∧ continuations m = continuations n ∧
      m % 64 ^ continuations n < n % 64 ^ continuations n := by
  rcases Nat.lt_or_eq_of_le (continuations_mono (Nat.le_of_lt h)) with hlt | heq
  · have hlead := Nat.lt_of_lt_of_le (leading_lt_mark hm) (mark_mono hlt)
    exact .inl (Nat.lt_of_lt_of_le hlead (Nat.le_add_right _ _))
  · rw [leading, leading, heq]
    rcases Nat.lt_or_eq_of_le (Nat.div_le_div_right (c := 64 ^ continuations n)
      (Nat.le_of_lt h)) with hfirst | hfirst
    · exact .inl (Nat.add_lt_add_left hfirst _)
    · have hmsplit := Nat.div_add_mod m (64 ^ continuations n)
      have hnsplit := Nat.div_add_mod n (64 ^ continuations n)
      rw [hfirst] at hmsplit
      exact .inr ⟨by rw [hfirst], rfl, by omega⟩

/-- Of two numbers the first digit in which they differ decides. -/
theorem digits_append_lt (h : m % 64 ^ k < n % 64 ^ k) (x y : Bytes) :
    digits m k ++ x < digits n k ++ y := by
  induction k with
  | zero => omega
  | succ k ih =>
    rw [digits, digits, List.cons_append, List.cons_append, List.cons_lt_cons_iff,
      UInt8.lt_iff_toNat_lt, ← UInt8.toNat_inj, UInt8.toNat_ofNat', UInt8.toNat_ofNat']
    rw [Nat.pow_succ, Nat.mod_mul, Nat.mod_mul] at h
    have hm : m / 64 ^ k % 64 < 64 := Nat.mod_lt _ (by decide)
    have hn : n / 64 ^ k % 64 < 64 := Nat.mod_lt _ (by decide)
    rcases Nat.lt_trichotomy (m / 64 ^ k % 64) (n / 64 ^ k % 64) with hlt | heq | hgt
    · exact .inl (by omega)
    · rw [heq] at h
      exact .inr ⟨by omega, ih (by omega)⟩
    · have hmul : 64 ^ k * (n / 64 ^ k % 64 + 1) ≤ 64 ^ k * (m / 64 ^ k % 64) :=
        Nat.mul_le_mul_left _ hgt
      have hmod : n % 64 ^ k < 64 ^ k := Nat.mod_lt _ (Nat.pow_pos (by decide))
      rw [Nat.mul_succ] at hmul
      omega

end Numbers

theorem encodeOne_eq_digits (c : CodePoint) :
    encodeOne c = UInt8.ofNat (leading c.val) :: digits c.val (continuations c.val) := by
  unfold encodeOne leading continuations
  dsimp only
  split
  · simp [mark, digits]
  · split
    · simp [mark, digits]
    · split
      · simp [mark, digits]
      · simp [mark, digits]

theorem encodeOne_append_lt {c d : CodePoint} (h : c.val < d.val) (x y : Bytes) :
    encodeOne c ++ x < encodeOne d ++ y := by
  rw [encodeOne_eq_digits, encodeOne_eq_digits, List.cons_append, List.cons_append,
    List.cons_lt_cons_iff]
  rcases leading_lt_or_eq c.isLt h with hlt | ⟨hlead, hcount, hdigits⟩
  · rw [UInt8.lt_iff_toNat_lt, toNat_leading c.isLt, toNat_leading d.isLt]
    exact .inl hlt
  · rw [hlead, hcount]
    exact .inr ⟨rfl, digits_append_lt hdigits x y⟩

theorem flatMap_encodeOne_lt {s t : Text} (h : s.lt t) :
    s.flatMap encodeOne < t.flatMap encodeOne := by
  induction s generalizing t with
  | nil =>
    cases t with
    | nil => cases h
    | cons b t =>
      rw [List.flatMap_nil, List.flatMap_cons, encodeOne_eq_digits, List.cons_append]
      exact List.nil_lt_cons _ _
  | cons a s ih =>
    cases t with
    | nil => cases h
    | cons b t =>
      simp only [Text.lt, Bool.or_eq_true, Bool.and_eq_true, decide_eq_true_eq, beq_iff_eq] at h
      rw [List.flatMap_cons, List.flatMap_cons]
      rcases h with hab | ⟨hab, hst⟩
      · exact encodeOne_append_lt hab _ _
      · rw [CodePoint.eq_of_val hab]
        exact List.append_left_lt (ih hst)

theorem eq_flatMap_of_encode? {s : Text} {a : Bytes} (h : encode? s = some a) :
    a = s.flatMap encodeOne := by
  have hs : s.hasSurrogate = false := by
    rw [← Bool.not_eq_true, ← encode?_eq_none_iff, h]
    nofun
  exact Option.some.inj (h.symm.trans (encode?_of_intact hs))

/-- Comparing texts by code point and comparing their UTF-8 forms by byte come to the same. -/
theorem encode?_lt_iff {s t : Text} {a b : Bytes} (ha : encode? s = some a)
    (hb : encode? t = some b) : a < b ↔ s.lt t := by
  rw [eq_flatMap_of_encode? ha, eq_flatMap_of_encode? hb]
  constructor
  · intro hlt
    rcases Text.lt_or_eq_or_lt s t with h | rfl | h
    · exact h
    · exact absurd hlt (List.lt_irrefl _)
    · exact absurd (flatMap_encodeOne_lt h) (List.lt_asymm hlt)
  · exact flatMap_encodeOne_lt

end Utf8

/-- Whether a key comes before another one where Go writes a map: by the bytes of its UTF-8 form. -/
def Value.GoBefore (v w : Value) : Prop :=
  ∃ s t a b, v = .text s ∧ w = .text t ∧ Utf8.encode? s = some a ∧ Utf8.encode? t = some b ∧ a < b

/-- The last code point of three bytes comes before the first one of four, and a beginning before what
goes on. -/
example : Value.GoBefore (.text [CodePoint.ofNat 0xFFFF]) (.text [CodePoint.ofNat 0x10000]) ∧
    Value.GoBefore "a" "ab" :=
  ⟨⟨_, _, _, _, rfl, rfl, rfl, rfl, by decide⟩, ⟨_, _, _, _, rfl, rfl, rfl, rfl, by decide⟩⟩

namespace Entries

/-- A map whose keys are texts without surrogates, no key being there twice. -/
structure IsLegible (es : Entries) : Prop where
  keys : ∀ e ∈ es, ∃ t, e.1 = .text t ∧ t.hasSurrogate = false
  distinct : es.Pairwise fun d e => d.1.same e.1 = false

variable {es fs : Entries}

theorem IsLegible.all_text (h : es.IsLegible) : es.all fun e => e.1.kind = .text := by
  rw [List.all_eq_true]
  intro e he
  obtain ⟨t, ht, -⟩ := h.keys e he
  rw [ht]
  rfl

/-- However a map is filled, it has the same entries in key order. -/
theorem IsLegible.sorted_of_perm (h : es.IsLegible) (hperm : fs.Perm es) :
    fs.sorted = .ok (es.mergeSort textOrder) := by
  have hkeys : fs.all fun e => e.1.kind = .text := by
    have hall := h.all_text
    rw [List.all_eq_true] at hall ⊢
    exact fun e he => hall e (hperm.mem_iff.mp he)
  rw [sorted, if_pos hkeys, mergeSort_eq_of_perm h.all_text h.distinct hperm.symm]

theorem IsLegible.sortedMap_of_perm (h : es.IsLegible) (hperm : fs.Perm es) :
    sortedMap (some fs) = .ok (.object (es.mergeSort textOrder)) := by
  rw [sortedMap, h.sorted_of_perm hperm]
  rfl

theorem IsLegible.pairwise_goBefore (h : es.IsLegible) :
    (es.mergeSort textOrder).Pairwise fun d e => d.1.GoBefore e.1 := by
  refine (pairwise_lt_mergeSort h.all_text h.distinct).imp_of_mem ?_
  intro d e hd he hlt
  obtain ⟨s, hs, hsIntact⟩ := h.keys d (List.mem_mergeSort.mp hd)
  obtain ⟨t, ht, htIntact⟩ := h.keys e (List.mem_mergeSort.mp he)
  rw [hs, ht, Value.display, Value.display] at hlt
  have ha := Utf8.encode?_of_intact hsIntact
  have hb := Utf8.encode?_of_intact htIntact
  exact ⟨s, t, _, _, hs, ht, ha, hb, (Utf8.encode?_lt_iff ha hb).mpr hlt⟩

end Entries

def Payload.withHeaders (p : Payload) (es : Entries) : Payload := { p with headers := some es }

/-- A map whose keys are texts without surrogates has a form in key order: it holds the same entries,
its keys ascend strictly in Go's order, and it is in key order itself. However the map was filled, this
form is the same, and so are the canonical bytes of whatever has the map for its headers. -/
theorem sortedMap_goBefore {es : Entries} (h : es.IsLegible) : ∃ fs,
    sortedMap (some es) = .ok (.object fs) ∧ fs.Perm es ∧
    fs.Pairwise (fun d e => d.1.GoBefore e.1) ∧ sortedMap (some fs) = .ok (.object fs) ∧
    ∀ gs : Entries, gs.Perm es → sortedMap (some gs) = .ok (.object fs) ∧
      ∀ (p : Payload) (m : Metadata) (q : Proof),
        ((p.withHeaders gs).toValue >>= canonicalBytes) =
          ((p.withHeaders es).toValue >>= canonicalBytes) ∧
        (Request.toValue ⟨p.withHeaders gs, m⟩ >>= canonicalBytes) =
          (Request.toValue ⟨p.withHeaders es, m⟩ >>= canonicalBytes) ∧
        (RelayInput.toValue ⟨p.withHeaders gs, m, q⟩ >>= canonicalBytes) =
          (RelayInput.toValue ⟨p.withHeaders es, m, q⟩ >>= canonicalBytes) := by
  have hperm := List.mergeSort_perm es Entries.textOrder
  refine ⟨es.mergeSort Entries.textOrder, h.sortedMap_of_perm (.refl es), hperm,
    h.pairwise_goBefore, h.sortedMap_of_perm hperm, fun gs hgs => ?_⟩
  refine ⟨h.sortedMap_of_perm hgs, fun p m q => ?_⟩
  have hpayload : (p.withHeaders gs).toValue = (p.withHeaders es).toValue := by
    rw [Payload.toValue, Payload.toValue, Payload.withHeaders, Payload.withHeaders,
      h.sortedMap_of_perm hgs, h.sortedMap_of_perm (.refl es)]
  have hrequest : Request.toValue ⟨p.withHeaders gs, m⟩ = Request.toValue ⟨p.withHeaders es, m⟩ := by
    rw [Request.toValue, Request.toValue, hpayload]
  have hinput : RelayInput.toValue ⟨p.withHeaders gs, m, q⟩ =
      RelayInput.toValue ⟨p.withHeaders es, m, q⟩ := by
    rw [RelayInput.toValue, RelayInput.toValue, hpayload]
  exact ⟨by rw [hpayload], by rw [hrequest], by rw [hinput]⟩

/-- Two keys of which UTF-16 would have the second one first, and one with which the other begins. -/
theorem sortedMap_goBefore_astral :
    let es : Entries := [(.text [CodePoint.ofNat 0x10000], "x"), ("ab", .int 1),
      (.text [CodePoint.ofNat 0xFFFF], .null), ("a", "")]
    es.IsLegible ∧ ∃ fs, sortedMap (some es) = .ok (.object fs) ∧ fs.Perm es ∧
      fs.Pairwise (fun d e => d.1.GoBefore e.1) ∧
      sortedMap (some es.reverse) = .ok (.object fs) := by
  intro es
  have h : es.IsLegible := by
    refine ⟨?_, by decide⟩
    simp only [es, List.forall_mem_cons, List.not_mem_nil, false_imp_iff, implies_true, and_true]
    exact ⟨⟨_, rfl, rfl⟩, ⟨_, rfl, rfl⟩, ⟨_, rfl, rfl⟩, ⟨_, rfl, rfl⟩⟩
  obtain ⟨fs, hsorted, hperm, hpairwise, -, hfilled⟩ := sortedMap_goBefore h
  exact ⟨h, fs, hsorted, hperm, hpairwise, (hfilled es.reverse (List.reverse_perm es)).1⟩

end RelayClient
