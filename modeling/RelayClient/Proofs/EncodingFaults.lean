import RelayClient.Digest
import RelayClient.Proofs.GoJson
import RelayClient.Proofs.Outcomes

/-!
# Which values have no canonical bytes

A fault is found in a single value, at whatever depth that stands in another one. The writer stops
at the first fault in its way, but surrogates do not stop it: they go through the escaping passes
unchanged, and are refused in the finished document. So they are reported only if there is no other
fault.
-/
namespace RelayClient

/-- The kinds of value that are written as keys. -/
def Kind.ofKeys : List Kind := [.text, .int, .float, .bool, .null]

namespace Value

/-- A value stands in another one, as an item, as a key, as what is under a key or as the whole. -/
inductive Within : Value → Value → Prop where
  | refl (v : Value) : Within v v
  | item {w v : Value} {items : List Value} (mem : v ∈ items) (within : Within w v) :
      Within w (array items)
  | member {w v : Value} {items : List Value} (mem : v ∈ items) (within : Within w v) :
      Within w (tuple items)
  | key {w : Value} {e : Value × Value} {entries : List (Value × Value)} (mem : e ∈ entries)
      (within : Within w e.1) : Within w (object entries)
  | under {w : Value} {e : Value × Value} {entries : List (Value × Value)} (mem : e ∈ entries)
      (within : Within w e.2) : Within w (object entries)

/-- The fault of a single value, whatever stands in it. -/
inductive OwnFault : Value → Unencodable → Prop where
  | bytes (b : Bytes) : OwnFault (bytes b) .bytes
  | notFinite {x : Binary64} (infinite : x.isFinite = false) : OwnFault (float x) .notFinite
  | longInteger {n : Int} (long : maxDigits < (Nat.toDigits 10 n.natAbs).length) :
      OwnFault (int n) .longInteger
  | key {e : Value × Value} {entries : List (Value × Value)} (mem : e ∈ entries)
      (kind : e.1.kind ∉ Kind.ofKeys) : OwnFault (object entries) (.key e.1.kind)
  | surrogate {t : Text} (broken : t.hasSurrogate) : OwnFault (text t) .surrogate

def HasFault (v : Value) (u : Unencodable) : Prop := ∃ w : Value, w.Within v ∧ w.OwnFault u

/-- A fault of an entry: its key is of a kind that is not written, or the key or what is under it
has the fault. -/
def EntryFault (e : Value × Value) (u : Unencodable) : Prop :=
  (e.1.kind ∉ Kind.ofKeys ∧ u = .key e.1.kind ∨ e.1.HasFault u) ∨ e.2.HasFault u

variable {u : Unencodable}

/-- A value in which nothing else stands has its own fault only. -/
theorem hasFault_iff_own {v : Value} (h : ∀ w : Value, w.Within v → w = v) :
    v.HasFault u ↔ v.OwnFault u := by
  constructor
  · rintro ⟨w, hw, hu⟩
    rwa [← h w hw]
  · exact fun hu => ⟨v, .refl v, hu⟩

theorem hasFault_text {t : Text} : (text t).HasFault u ↔ u = .surrogate ∧ t.hasSurrogate := by
  rw [hasFault_iff_own (by rintro w ⟨⟩; rfl)]
  constructor
  · intro h
    cases h with
    | surrogate broken => exact ⟨rfl, broken⟩
  · rintro ⟨rfl, broken⟩
    exact .surrogate broken

theorem hasFault_int {n : Int} : (int n).HasFault u ↔
    u = .longInteger ∧ maxDigits < (Nat.toDigits 10 n.natAbs).length := by
  rw [hasFault_iff_own (by rintro w ⟨⟩; rfl)]
  constructor
  · intro h
    cases h with
    | longInteger long => exact ⟨rfl, long⟩
  · rintro ⟨rfl, long⟩
    exact .longInteger long

theorem hasFault_float {x : Binary64} :
    (float x).HasFault u ↔ u = .notFinite ∧ x.isFinite = false := by
  rw [hasFault_iff_own (by rintro w ⟨⟩; rfl)]
  constructor
  · intro h
    cases h with
    | notFinite infinite => exact ⟨rfl, infinite⟩
  · rintro ⟨rfl, infinite⟩
    exact .notFinite infinite

theorem not_hasFault_null : ¬ null.HasFault u := by
  rintro ⟨w, hw, hu⟩
  cases hw
  cases hu

theorem not_hasFault_bool (b : Bool) : ¬ (bool b).HasFault u := by
  rintro ⟨w, hw, hu⟩
  cases hw
  cases hu

theorem hasFault_array {items : List Value} :
    (array items).HasFault u ↔ ∃ v ∈ items, v.HasFault u := by
  constructor
  · rintro ⟨w, hw, hu⟩
    cases hw with
    | refl => cases hu
    | item mem within => exact ⟨_, mem, w, within, hu⟩
  · rintro ⟨v, hv, w, hw, hu⟩
    exact ⟨w, .item hv hw, hu⟩

theorem hasFault_tuple {items : List Value} :
    (tuple items).HasFault u ↔ ∃ v ∈ items, v.HasFault u := by
  constructor
  · rintro ⟨w, hw, hu⟩
    cases hw with
    | refl => cases hu
    | member mem within => exact ⟨_, mem, w, within, hu⟩
  · rintro ⟨v, hv, w, hw, hu⟩
    exact ⟨w, .member hv hw, hu⟩

theorem hasFault_object {entries : List (Value × Value)} :
    (object entries).HasFault u ↔ ∃ e ∈ entries, EntryFault e u := by
  constructor
  · rintro ⟨w, hw, hu⟩
    cases hw with
    | refl =>
      cases hu with
      | key mem kind => exact ⟨_, mem, .inl (.inl ⟨kind, rfl⟩)⟩
    | key mem within => exact ⟨_, mem, .inl (.inr ⟨w, within, hu⟩)⟩
    | under mem within => exact ⟨_, mem, .inr ⟨w, within, hu⟩⟩
  · rintro ⟨e, he, (⟨hk, rfl⟩ | ⟨w, hw, hu⟩) | ⟨w, hw, hu⟩⟩
    · exact ⟨_, .refl _, .key he hk⟩
    · exact ⟨w, .key he hw, hu⟩
    · exact ⟨w, .under he hw, hu⟩

theorem hasFault_record {fields : List (String × Value)} :
    (record fields).HasFault u ↔ ∃ f ∈ fields, f.2.HasFault u := by
  rw [record, hasFault_object]
  have hname (s : String) : ¬ (text (Text.ofString s)).HasFault u := by simp [hasFault_text]
  constructor
  · rintro ⟨_, he, hu⟩
    obtain ⟨f, hf, rfl⟩ := List.mem_map.mp he
    obtain (⟨hk, -⟩ | hu) | hu := hu
    · exact absurd (show Kind.text ∈ Kind.ofKeys by decide) hk
    · exact absurd hu (hname _)
    · exact ⟨f, hf, hu⟩
  · rintro ⟨f, hf, hu⟩
    exact ⟨_, List.mem_map_of_mem hf, .inr hu⟩

end Value

/-! Surrogates in the passes -/

namespace Canonical

/-- Replacing one intact character by an intact text neither hides nor makes a surrogate. -/
theorem hasSurrogate_replaceAll {e : CodePoint × Text} (hc : e.1.isSurrogate = false)
    (he : e.2.hasSurrogate = false) (t : Text) : (replaceAll t e).hasSurrogate = t.hasSurrogate := by
  refine Text.hasSurrogate_flatMap (fun c => ?_) t
  split
  · rename_i h
    rw [h, he, hc]
  · exact Bool.or_false _

theorem hasSurrogate_lengthenEscapes (t : Text) :
    (lengthenEscapes t).hasSurrogate = t.hasSurrogate := by
  have hlong {c : CodePoint} {s : Text} (h : longEscape c = some s) :
      c.isSurrogate = false ∧ s.hasSurrogate = false := by
    unfold longEscape at h
    split at h
    · rename_i hc
      cases h
      exact ⟨by rw [hc]; rfl, Text.hasSurrogate_ofString _⟩
    · split at h
      · rename_i hc
        cases h
        exact ⟨by rw [hc]; rfl, Text.hasSurrogate_ofString _⟩
      · cases h
  fun_induction lengthenEscapes t with
  | case1 => rfl
  | case2 c => rfl
  | case3 c d r hpair s hs ih =>
    obtain ⟨hd, hs⟩ := hlong hs
    simp only [Bool.and_eq_true, decide_eq_true_eq] at hpair
    simp [ih, hd, hs, hpair.1]
  | case4 c d r hpair hs ih => simp [ih]
  | case5 c d r hpair ih => simp [ih]

theorem hasSurrogate_escapeDocument (t : Text) :
    (escapeDocument t).hasSurrogate = t.hasSurrogate := by
  have hintact : ∀ e ∈ escapes, e.1.isSurrogate = false ∧ e.2.hasSurrogate = false := by decide
  have hfold : ∀ (es : List (CodePoint × Text)) (s : Text),
      (∀ e ∈ es, e.1.isSurrogate = false ∧ e.2.hasSurrogate = false) →
      (es.foldl replaceAll s).hasSurrogate = s.hasSurrogate := by
    intro es
    induction es with
    | nil => exact fun s _ => rfl
    | cons e es ih =>
      intro s h
      obtain ⟨hc, he⟩ := h e (List.mem_cons_self ..)
      rw [List.foldl_cons, ih _ fun d hd => h d (List.mem_cons_of_mem _ hd),
        hasSurrogate_replaceAll hc he]
  rw [escapeDocument, hfold _ _ hintact, hasSurrogate_lengthenEscapes]

end Canonical

namespace Json

theorem hasSurrogate_fixed (width n : Nat) : (Hex.fixed width n).hasSurrogate = false := by
  induction width generalizing n with
  | zero => rfl
  | succ width ih => simp [Hex.fixed, ih]

theorem hasSurrogate_escapeChar (c : CodePoint) :
    (escapeChar c).hasSurrogate = c.isSurrogate := by
  have hlow (h : c.val < 0x20) : c.isSurrogate = false := by
    rw [← Bool.not_eq_true, CodePoint.isSurrogate, Bool.and_eq_true, decide_eq_true_eq,
      decide_eq_true_eq]
    omega
  unfold escapeChar
  by_cases hquote : c = '"'
  · subst hquote; rfl
  by_cases hslash : c = '\\'
  · subst hslash; rfl
  by_cases hline : c = '\n'
  · subst hline; rfl
  by_cases hreturn : c = '\r'
  · subst hreturn; rfl
  by_cases htab : c = '\t'
  · subst htab; rfl
  rw [if_neg hquote, if_neg hslash, if_neg hline, if_neg hreturn, if_neg htab]
  split
  · rw [hlow (by omega)]; rfl
  split
  · rw [hlow (by omega)]; rfl
  split
  · rename_i h
    rw [hlow h]
    simp [hasSurrogate_fixed]
  · exact Bool.or_false _

theorem hasSurrogate_string (t : Text) : (string t).hasSurrogate = t.hasSurrogate := by
  simp [string, Text.between, Text.hasSurrogate_flatMap hasSurrogate_escapeChar]

theorem hasSurrogate_toText (x : Binary64) : x.toText.hasSurrogate = false := by
  cases x with
  | finite negative significand exponent => exact Text.hasSurrogate_map_ofChar _
  | infinite negative => exact Text.hasSurrogate_ofString _
  | nan => exact Text.hasSurrogate_ofString _

/-- How a writing ends in which there are these faults. If only surrogates are among them, there is a
text that holds a surrogate exactly if one is; otherwise one of the other faults is reported. -/
inductive Reports (F : Unencodable → Prop) : Except Unencodable Text → Prop where
  | written {t : Text} (surrogate : t.hasSurrogate ↔ F .surrogate)
      (only : ∀ u, F u → u = .surrogate) : Reports F (.ok t)
  | refused {u : Unencodable} (fault : F u) (other : u ≠ .surrogate) : Reports F (.error u)

section Reports

variable {F G : Unencodable → Prop} {x y : Except Unencodable Text}

theorem Reports.congr (h : Reports F x) (hFG : ∀ u, G u ↔ F u) : Reports G x := by
  obtain rfl : G = F := funext fun u => propext (hFG u)
  exact h

/-- A text without surrogates, written for what has no fault. -/
theorem Reports.intact {t : Text} (ht : t.hasSurrogate = false) (hF : ∀ u, ¬ F u) :
    Reports F (.ok t) := by
  refine .written ⟨fun h => ?_, fun h => absurd h (hF _)⟩ fun u hu => absurd hu (hF u)
  rw [ht] at h
  cases h

/-- Two writings one after the other, their texts being put together. -/
theorem Reports.both (hx : Reports F x) (hy : Reports G y) {g : Text → Text → Text}
    (hg : ∀ a b, (g a b).hasSurrogate = (a.hasSurrogate || b.hasSurrogate)) :
    Reports (fun u => F u ∨ G u) (do
      let a ← x
      let b ← y
      return g a b) := by
  cases hx with
  | refused fault other => exact .refused (.inl fault) other
  | written surrogate only =>
    cases hy with
    | refused fault' other' => exact .refused (.inr fault') other'
    | written surrogate' only' =>
      refine .written ?_ fun u hu => hu.elim (only u) (only' u)
      rw [hg, Bool.or_eq_true, surrogate, surrogate']

/-- A key, what is under it and what follows, each written in its turn. -/
theorem Reports.entry {H : Unencodable → Prop} {z : Except Unencodable Text} (hx : Reports F x)
    (hy : Reports G y) (hz : Reports H z) (opening : Char) :
    Reports (fun u => F u ∨ G u ∨ H u) (do
      let k ← x
      let v ← y
      let r ← z
      return CodePoint.ofChar opening :: (string k ++ CodePoint.ofChar ':' :: (v ++ r))) := by
  have hvr : ∀ a b : Text, (a ++ b).hasSurrogate = (a.hasSurrogate || b.hasSurrogate) :=
    Text.hasSurrogate_append
  have hkey : ∀ a b : Text, Text.hasSurrogate (CodePoint.ofChar opening ::
      (string a ++ CodePoint.ofChar ':' :: b)) = (a.hasSurrogate || b.hasSurrogate) := by
    intro a b
    simp [hasSurrogate_string]
  have h := hx.both (hy.both hz hvr) hkey
  simpa only [bind_assoc, pure_bind] using h

end Reports

theorem number_reports (x : Binary64) : Reports (Value.float x).HasFault (number x) := by
  unfold number
  cases h : x.isFinite with
  | true => exact .intact (hasSurrogate_toText x) (by simp [Value.hasFault_float, h])
  | false => exact .refused (Value.hasFault_float.mpr ⟨rfl, h⟩) (by decide)

theorem length_toDigits_le_iff (n : Nat) {k : Nat} (hk : 0 < k) :
    (Nat.toDigits 10 n).length ≤ k ↔ n < Nat.pow 10 k :=
  Nat.length_toDigits_le_iff (by decide) hk

theorem integer_reports (n : Int) : Reports (Value.int n).HasFault (integer n) := by
  have hlong := length_toDigits_le_iff n.natAbs (show 0 < maxDigits by decide)
  have htext : (Text.ofInt n).hasSurrogate = false := by
    unfold Text.ofInt
    split
    · simp [Text.ofNat]
    · exact Text.hasSurrogate_ofString _
  by_cases h : n.natAbs < Nat.pow 10 maxDigits
  · rw [integer, if_pos h]
    refine .intact htext fun u hu => ?_
    exact absurd (hlong.mpr h) (Nat.not_le.mpr (Value.hasFault_int.mp hu).2)
  · rw [integer, if_neg h]
    refine .refused (Value.hasFault_int.mpr ⟨rfl, ?_⟩) (by decide)
    exact Nat.lt_of_not_le fun hn => h (hlong.mp hn)

theorem text_reports {t s : Text} (h : s.hasSurrogate = t.hasSurrogate) :
    Reports (Value.text t).HasFault (.ok s) := by
  refine .written ?_ fun u hu => (Value.hasFault_text.mp hu).1
  simp [Value.hasFault_text, h]

theorem word_intact (b : Bool) : (word b).hasSurrogate = false := by
  cases b <;> exact Text.hasSurrogate_ofString _

theorem key_reports (k : Value) :
    Reports (fun u => k.kind ∉ Kind.ofKeys ∧ u = .key k.kind ∨ k.HasFault u) (key k) := by
  have hkey (h : k.kind ∈ Kind.ofKeys) (u : Unencodable) :
      (k.kind ∉ Kind.ofKeys ∧ u = .key k.kind ∨ k.HasFault u) ↔ k.HasFault u := by
    simp [h]
  have hother (h : k.kind ∉ Kind.ofKeys) :
      Reports (fun u => k.kind ∉ Kind.ofKeys ∧ u = .key k.kind ∨ k.HasFault u)
        (.error (.key k.kind)) :=
    .refused (.inl ⟨h, rfl⟩) (by simp)
  cases k with
  | text t => exact (text_reports rfl).congr (hkey (show Kind.text ∈ Kind.ofKeys by decide))
  | float x => exact (number_reports x).congr (hkey (show Kind.float ∈ Kind.ofKeys by decide))
  | int n =>
    rw [key]
    exact (integer_reports n).congr (hkey (show Kind.int ∈ Kind.ofKeys by decide))
  | bool b =>
    exact (Reports.intact (word_intact b) fun _ => Value.not_hasFault_bool b).congr
      (hkey (show Kind.bool ∈ Kind.ofKeys by decide))
  | null =>
    exact (Reports.intact (Text.hasSurrogate_ofString _) fun _ => Value.not_hasFault_null).congr
      (hkey (show Kind.null ∈ Kind.ofKeys by decide))
  | bytes b => exact hother (show Kind.bytes ∉ Kind.ofKeys by decide)
  | array items => exact hother (show Kind.array ∉ Kind.ofKeys by decide)
  | tuple items => exact hother (show Kind.tuple ∉ Kind.ofKeys by decide)
  | object entries => exact hother (show Kind.object ∉ Kind.ofKeys by decide)

mutual

/-- A value is written if nothing but surrogates is at fault in it, and they go into its document. -/
theorem write_reports : ∀ v : Value, Reports v.HasFault (write v)
  | .null => .intact (Text.hasSurrogate_ofString _) fun _ => Value.not_hasFault_null
  | .bool b => .intact (word_intact b) fun _ => Value.not_hasFault_bool b
  | .int n => by
    rw [write]
    exact integer_reports n
  | .float x => number_reports x
  | .text t => text_reports (hasSurrogate_string t)
  | .bytes b => .refused ⟨_, .refl _, .bytes b⟩ (by decide)
  | .array items => (writeArray_reports items).congr fun _ => Value.hasFault_array
  | .tuple items => (writeArray_reports items).congr fun _ => Value.hasFault_tuple
  | .object [] => by
    refine .intact (by rfl) fun u hu => ?_
    obtain ⟨e, he, -⟩ := Value.hasFault_object.mp hu
    cases he
  | .object ((k, v) :: r) => by
    have h := (key_reports k).entry (write_reports v) (writeEntries_reports r) '{'
    refine h.congr fun u => ?_
    simp only [Value.hasFault_object, List.mem_cons, exists_eq_or_imp, Value.EntryFault, or_assoc]

theorem writeArray_reports : ∀ items : List Value,
    Reports (fun u => ∃ v ∈ items, v.HasFault u) (writeArray items)
  | [] => .intact (by rfl) (by simp)
  | v :: r => by
    have h := (write_reports v).both (writeItems_reports r)
      (g := fun a b => CodePoint.ofChar '[' :: (a ++ b)) (by simp)
    exact h.congr fun u => by simp only [List.mem_cons, exists_eq_or_imp]

theorem writeItems_reports : ∀ items : List Value,
    Reports (fun u => ∃ v ∈ items, v.HasFault u) (writeItems items)
  | [] => .intact (by rfl) (by simp)
  | v :: r => by
    have h := (write_reports v).both (writeItems_reports r)
      (g := fun a b => CodePoint.ofChar ',' :: (a ++ b)) (by simp)
    exact h.congr fun u => by simp only [List.mem_cons, exists_eq_or_imp]

theorem writeEntries_reports : ∀ entries : List (Value × Value),
    Reports (fun u => ∃ e ∈ entries, Value.EntryFault e u) (writeEntries entries)
  | [] => .intact (by rfl) (by simp)
  | (k, v) :: r => by
    have h := (key_reports k).entry (write_reports v) (writeEntries_reports r) ','
    refine h.congr fun u => ?_
    simp only [List.mem_cons, exists_eq_or_imp, Value.EntryFault, or_assoc]

end

end Json

/-- A value is encoded if nothing is at fault in it. Surrogates are reported if there is nothing else,
and otherwise one of the other faults. -/
theorem Canonical.encode_cases (v : Value) :
    ((∃ b, encode v = .ok b) ∧ ∀ u, ¬ v.HasFault u) ∨
    (encode v = .error .surrogate ∧ v.HasFault .surrogate ∧ ∀ u, v.HasFault u → u = .surrogate) ∨
    ∃ u, encode v = .error u ∧ v.HasFault u ∧ u ≠ .surrogate := by
  have hwrite := Json.write_reports v
  cases hw : Json.write v with
  | error u =>
    rw [hw] at hwrite
    cases hwrite with
    | refused fault other =>
      refine .inr (.inr ⟨u, ?_, fault, other⟩)
      rw [encode, document, hw]
      rfl
  | ok t =>
    rw [hw] at hwrite
    cases hwrite with
    | written surrogate only =>
      have hencode : encode v =
          (Utf8.encode? (escapeDocument t)).elim (.error .surrogate) .ok := by
        rw [encode, document, hw]
        simp only [bind, Except.bind, pure, Except.pure]
        cases Utf8.encode? (escapeDocument t) <;> rfl
      cases hs : t.hasSurrogate with
      | true =>
        have hnone : Utf8.encode? (escapeDocument t) = none :=
          Utf8.encode?_eq_none_iff.mpr (by rw [hasSurrogate_escapeDocument, hs])
        rw [hnone] at hencode
        exact .inr (.inl ⟨hencode, surrogate.mp hs, only⟩)
      | false =>
        have hsome := Utf8.encode?_of_intact (t := escapeDocument t)
          (by rw [hasSurrogate_escapeDocument, hs])
        rw [hsome] at hencode
        refine .inl ⟨⟨_, hencode⟩, fun u hu => ?_⟩
        obtain rfl := only u hu
        rw [surrogate.mpr hu] at hs
        cases hs

theorem Unencodable.message_eq_iff (u : Unencodable) :
    u.message = "payload contains invalid unicode" ↔ u = .surrogate := by
  cases u with
  | key k => cases k <;> decide
  | _ => decide

/-- A value without canonical bytes is refused for one of its faults, and for a surrogate exactly if it
has no other. -/
theorem of_canonicalBytes_error {v : Value} {f : Fault} (h : canonicalBytes v = .error f) :
    ∃ u, f = .unencodable u ∧ v.HasFault u ∧
      (u = .surrogate ↔ ∀ w, v.HasFault w → w = .surrogate) := by
  rw [canonicalBytes] at h
  obtain ⟨⟨b, hb⟩, -⟩ | ⟨he, hfault, honly⟩ | ⟨u, he, hfault, hother⟩ := Canonical.encode_cases v
  · rw [hb] at h
    cases h
  · rw [he] at h
    cases h
    exact ⟨_, rfl, hfault, fun _ => honly, fun _ => rfl⟩
  · rw [he] at h
    cases h
    exact ⟨u, rfl, hfault, fun hu => absurd hu hother, fun honly => absurd (honly u hfault) hother⟩

theorem exists_canonicalBytes_iff {v : Value} :
    (∃ b, canonicalBytes v = .ok b) ↔ ∀ u, ¬ v.HasFault u := by
  obtain ⟨⟨b, hb⟩, hnone⟩ | ⟨he, hfault, -⟩ | ⟨u, he, hfault, -⟩ := Canonical.encode_cases v
  · refine ⟨fun _ => hnone, fun _ => ⟨b, ?_⟩⟩
    rw [canonicalBytes, hb]
    rfl
  · refine ⟨?_, fun hnone => absurd hfault (hnone _)⟩
    rintro ⟨b, hb⟩
    rw [canonicalBytes, he] at hb
    cases hb
  · refine ⟨?_, fun hnone => absurd hfault (hnone _)⟩
    rintro ⟨b, hb⟩
    rw [canonicalBytes, he] at hb
    cases hb

/-- The bytes are reported, although the surrogates come first. -/
example : Canonical.encode
    (.array [.text [CodePoint.ofNat 0xD83D, CodePoint.ofNat 0xDE00], .bytes []]) =
      .error .bytes := rfl

/-- A value has canonical bytes, and with them a hash, exactly if there is no fault anywhere in it.
Otherwise it is refused for one of its faults, and the message is about invalid unicode exactly if it
has no faults but surrogates. Two surrogates that would make a pair are refused as well. -/
theorem canonical_iff_faultless (v : Value) :
    ((∃ b, canonicalBytes v = .ok b) ↔ ∀ u, ¬ v.HasFault u) ∧
    ((∃ d, canonicalHash v = .ok d) ↔ ∀ u, ¬ v.HasFault u) ∧
    (∀ f, canonicalHash v = .error f ↔ canonicalBytes v = .error f) ∧
    (∀ f, canonicalBytes v = .error f → ∃ u, f = .unencodable u ∧ v.HasFault u ∧
      (f.message = Text.ofString "payload contains invalid unicode" ↔
        ∀ w, v.HasFault w → w = .surrogate)) ∧
    ∀ (before after : Text) (high low : CodePoint), high.isHighSurrogate → low.isLowSurrogate →
      canonicalBytes (.text (before ++ high :: low :: after)) =
        .error (.unencodable .surrogate) := by
  refine ⟨exists_canonicalBytes_iff, ?_, fun f => ?_, fun f hf => ?_, ?_⟩
  · rw [← exists_canonicalBytes_iff, canonicalHash]
    cases canonicalBytes v with
    | error f => exact ⟨nofun, nofun⟩
    | ok b => exact ⟨fun _ => ⟨b, rfl⟩, fun _ => ⟨_, rfl⟩⟩
  · rw [canonicalHash]
    cases canonicalBytes v with
    | error g => exact Iff.rfl
    | ok b => exact ⟨nofun, nofun⟩
  · obtain ⟨u, rfl, hfault, honly⟩ := of_canonicalBytes_error hf
    refine ⟨u, rfl, hfault, ?_⟩
    rw [← honly, ← u.message_eq_iff]
    exact ⟨Text.ofString_injective, congrArg Text.ofString⟩
  · intro before after high low hhigh _
    have hbroken : (before ++ high :: low :: after).hasSurrogate := by
      simp only [CodePoint.isHighSurrogate, Bool.and_eq_true, decide_eq_true_eq] at hhigh
      have hsurrogate : high.isSurrogate := by
        rw [CodePoint.isSurrogate, Bool.and_eq_true, decide_eq_true_eq, decide_eq_true_eq]
        omega
      simp [hsurrogate]
    cases hc : canonicalBytes (.text (before ++ high :: low :: after)) with
    | ok b =>
      have hnone := exists_canonicalBytes_iff.mp ⟨b, hc⟩ .surrogate
      exact absurd (Value.hasFault_text.mpr ⟨rfl, hbroken⟩) hnone
    | error f =>
      obtain ⟨u, rfl, hu, -⟩ := of_canonicalBytes_error hc
      rw [(Value.hasFault_text.mp hu).1]

end RelayClient
