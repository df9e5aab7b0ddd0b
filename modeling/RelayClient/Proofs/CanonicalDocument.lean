import RelayClient.Proofs.EscapePasses
import RelayClient.Proofs.GoJson

/-!
# The canonical document is the one-pass document

On plain JSON text the passes act string by string, so that they amount to escaping each character
by itself. What holds of a string holds of a document by induction on the value.
-/
namespace RelayClient
open Canonical

private theorem digit_isInert : ∀ n < 16, isInert (Hex.digit n) := by decide

private theorem escapeLast_of_mem : ∀ c ∈ escapes.map Prod.fst, escapeLast c = GoJson.char c := by
  decide

private theorem escapeDocument_numericEscape (c : CodePoint) (s : Text) :
    escapeDocument (GoJson.numericEscape c ++ s) = GoJson.numericEscape c ++ escapeDocument s := by
  have hp := escapeDocument_pair (d := 'u') (by decide) (Hex.fixed 4 c.val ++ s)
  rw [escapeDocument_append (all_fixed digit_isInert 4 c.val)] at hp
  exact hp

private theorem escapeDocument_short {c d : CodePoint} (hd : d ≠ '\n')
    (hc : Json.escapeChar c = [CodePoint.ofChar '\\', d])
    (hg : ((longEscape d).getD ['\\', d]).flatMap escapeLast = GoJson.char c) (s : Text) :
    escapeDocument (Json.escapeChar c ++ s) = GoJson.char c ++ escapeDocument s := by
  rw [hc, ← hg]
  exact escapeDocument_pair hd s

/-- The passes over what plain JSON writes for a character. -/
theorem escapeDocument_escapeChar (c : CodePoint) (s : Text) :
    escapeDocument (Json.escapeChar c ++ s) = GoJson.char c ++ escapeDocument s := by
  by_cases hquote : c = '"'
  · subst hquote; exact escapeDocument_short (d := '"') (by decide) (by decide) (by decide) s
  by_cases hslash : c = '\\'
  · subst hslash; exact escapeDocument_short (d := '\\') (by decide) (by decide) (by decide) s
  by_cases hline : c = '\n'
  · subst hline; exact escapeDocument_short (d := 'n') (by decide) (by decide) (by decide) s
  by_cases hreturn : c = '\r'
  · subst hreturn; exact escapeDocument_short (d := 'r') (by decide) (by decide) (by decide) s
  by_cases htab : c = '\t'
  · subst htab; exact escapeDocument_short (d := 't') (by decide) (by decide) (by decide) s
  by_cases hback : c.val = 0x8
  · rw [CodePoint.eq_of_val (d := CodePoint.ofNat 0x8) hback]
    exact escapeDocument_short (d := 'b') (by decide) (by decide) (by decide) s
  by_cases hfeed : c.val = 0xC
  · rw [CodePoint.eq_of_val (d := CodePoint.ofNat 0xC) hfeed]
    exact escapeDocument_short (d := 'f') (by decide) (by decide) (by decide) s
  by_cases hcontrol : c.val < 0x20
  · have hj : Json.escapeChar c = GoJson.numericEscape c := by
      simp [Json.escapeChar, GoJson.numericEscape, *]
    have hg : GoJson.char c = GoJson.numericEscape c := by simp [GoJson.char, *]
    rw [hj, hg, escapeDocument_numericEscape]
  · have hj : Json.escapeChar c = [c] := by simp [Json.escapeChar, *]
    rw [hj, List.singleton_append, escapeDocument_cons hslash]
    by_cases hm : c ∈ escapes.map Prod.fst
    · rw [escapeLast_of_mem c hm]
    · have hline' : c.val ≠ 0x2028 := fun h => hm (by
        rw [CodePoint.eq_of_val (d := CodePoint.ofNat 0x2028) h]; decide)
      have hparagraph : c.val ≠ 0x2029 := fun h => hm (by
        rw [CodePoint.eq_of_val (d := CodePoint.ofNat 0x2029) h]; decide)
      have hhtml : c ≠ '<' ∧ c ≠ '>' ∧ c ≠ '&' := by simp_all [escapes]
      rw [escapeLast_of_isInert (isInert_of_not_mem hslash hm)]
      simp [GoJson.char, *]

/-- A string literal is rewritten by itself, whatever stands behind it. -/
theorem escapeDocument_string (t s : Text) :
    escapeDocument (Json.string t ++ s) = GoJson.string t ++ escapeDocument s := by
  have quote (r : Text) : escapeDocument (CodePoint.ofChar '"' :: r) =
      CodePoint.ofChar '"' :: escapeDocument r :=
    escapeDocument_inert (by decide) r
  have body : escapeDocument (t.flatMap Json.escapeChar ++ CodePoint.ofChar '"' :: s) =
      t.flatMap GoJson.char ++ CodePoint.ofChar '"' :: escapeDocument s := by
    induction t with
    | nil => exact quote s
    | cons c t ih =>
      simp only [List.flatMap_cons, List.append_assoc, escapeDocument_escapeChar, ih]
  simpa [Json.string, GoJson.string, Text.between, quote] using body

private theorem isInert_of_isDigit {c : CodePoint} (h : c.isDigit) : isInert c := by
  have hm : ∀ d ∈ CodePoint.ofChar '\\' :: escapes.map Prod.fst, d.isDigit = false := by decide
  refine isInert_of_not_mem ?_ fun hc => ?_
  · rintro rfl
    exact absurd h (by decide)
  · exact absurd h (by simp [hm c (List.mem_cons_of_mem _ hc)])

mutual

/-- Plain JSON is written for a value in form, and the passes turn it into the one-pass document. -/
theorem write_spec : ∀ v : Value, v.everywhere GoJson.hasForm → ∃ t, Json.write v = .ok t ∧
    ∀ s, escapeDocument (t ++ s) = GoJson.write v ++ escapeDocument s
  | .null => fun _ => ⟨_, rfl, escapeDocument_append (by decide)⟩
  | .bool b => by
    intro _
    refine ⟨_, rfl, ?_⟩
    cases b <;> exact escapeDocument_append (by decide)
  | .int n => by
    intro h
    simp only [Value.everywhere, GoJson.hasForm, decide_eq_true_eq] at h
    exact ⟨Text.ofInt n, by rw [Json.write, Json.integer, if_pos h],
      escapeDocument_append (all_ofInt (fun _ => isInert_of_isDigit) (by decide) n)⟩
  | .text t => fun _ => ⟨_, rfl, escapeDocument_string t⟩
  | .array items => by
    intro h
    simp only [Value.everywhere, Bool.and_eq_true] at h
    exact writeArray_spec items h.2
  | .tuple items => by
    intro h
    simp only [Value.everywhere, Bool.and_eq_true] at h
    exact writeArray_spec items h.2
  | .object [] => fun _ => ⟨_, rfl, escapeDocument_append (by decide)⟩
  | .object ((k, v) :: r) => by
    intro h
    simp only [Value.everywhere, Value.everywhereUnder, GoJson.hasForm, List.all_cons,
      Bool.and_eq_true, decide_eq_true_eq] at h
    obtain ⟨k, rfl⟩ := Value.eq_text_of_kind h.1.1
    obtain ⟨t, ht, hv⟩ := write_spec v h.2.1.2
    obtain ⟨u, hu, hr⟩ := writeEntries_spec r h.1.2 h.2.2
    refine ⟨CodePoint.ofChar '{' :: (Json.string k ++ CodePoint.ofChar ':' :: (t ++ u)), ?_,
      fun s => ?_⟩
    · rw [Json.write, Json.key, ht, hu]
      rfl
    · simp (disch := decide) [GoJson.write, GoJson.writeEntries, GoJson.key, GoJson.between_joined,
        escapeDocument_inert, escapeDocument_string, hv, hr]
  | .float _ => by simp [Value.everywhere, GoJson.hasForm]
  | .bytes _ => by simp [Value.everywhere, GoJson.hasForm]

theorem writeArray_spec : ∀ items, Value.everywhereIn GoJson.hasForm items →
    ∃ t, Json.writeArray items = .ok t ∧ ∀ s, escapeDocument (t ++ s) =
      Text.between '[' ']' (Text.joined [','] (GoJson.writeItems items)) ++ escapeDocument s
  | [] => fun _ => ⟨_, rfl, escapeDocument_append (by decide)⟩
  | v :: r => by
    intro h
    simp only [Value.everywhereIn, Bool.and_eq_true] at h
    obtain ⟨t, ht, hv⟩ := write_spec v h.1
    obtain ⟨u, hu, hr⟩ := writeItems_spec r h.2
    refine ⟨CodePoint.ofChar '[' :: (t ++ u), ?_, fun s => ?_⟩
    · rw [Json.writeArray, ht, hu]
      rfl
    · simp (disch := decide) [GoJson.writeItems, GoJson.between_joined, escapeDocument_inert, hv,
        hr]

theorem writeItems_spec : ∀ items, Value.everywhereIn GoJson.hasForm items →
    ∃ t, Json.writeItems items = .ok t ∧ ∀ s, escapeDocument (t ++ s) =
      GoJson.behind ']' (GoJson.writeItems items) ++ escapeDocument s
  | [] => fun _ => ⟨_, rfl, escapeDocument_append (by decide)⟩
  | v :: r => by
    intro h
    simp only [Value.everywhereIn, Bool.and_eq_true] at h
    obtain ⟨t, ht, hv⟩ := write_spec v h.1
    obtain ⟨u, hu, hr⟩ := writeItems_spec r h.2
    refine ⟨CodePoint.ofChar ',' :: (t ++ u), ?_, fun s => ?_⟩
    · rw [Json.writeItems, ht, hu]
      rfl
    · simp (disch := decide) [GoJson.writeItems, GoJson.behind_cons, escapeDocument_inert, hv, hr]

theorem writeEntries_spec : ∀ entries : List (Value × Value),
    entries.all (fun e => e.1.kind = .text) → Value.everywhereUnder GoJson.hasForm entries →
    ∃ t, Json.writeEntries entries = .ok t ∧ ∀ s, escapeDocument (t ++ s) =
      GoJson.behind '}' (GoJson.writeEntries entries) ++ escapeDocument s
  | [] => fun _ _ => ⟨_, rfl, escapeDocument_append (by decide)⟩
  | (k, v) :: r => by
    intro hk h
    simp only [Value.everywhereUnder, List.all_cons, Bool.and_eq_true, decide_eq_true_eq] at hk h
    obtain ⟨k, rfl⟩ := Value.eq_text_of_kind hk.1
    obtain ⟨t, ht, hv⟩ := write_spec v h.1.2
    obtain ⟨u, hu, hr⟩ := writeEntries_spec r hk.2 h.2
    refine ⟨CodePoint.ofChar ',' :: (Json.string k ++ CodePoint.ofChar ':' :: (t ++ u)), ?_,
      fun s => ?_⟩
    · rw [Json.writeEntries, Json.key, ht, hu]
      rfl
    · simp (disch := decide) [GoJson.writeEntries, GoJson.key, GoJson.behind_cons,
        escapeDocument_inert, escapeDocument_string, hv, hr]

end

theorem document_eq_write {v : Value} (h : v.everywhere GoJson.hasForm) :
    document v = .ok (GoJson.write v) := by
  obtain ⟨t, ht, hs⟩ := write_spec v h
  have he : escapeDocument t = GoJson.write v := by simpa using hs []
  rw [document, ht, ← he]
  rfl

/-- Of the values in form exactly those without a surrogate have canonical bytes. -/
theorem encode_eq_ok_iff {v : Value} {b : Bytes} (h : v.everywhere GoJson.hasForm) :
    encode v = .ok b ↔ v.everywhere GoJson.isIntact ∧ b = GoJson.encode v := by
  have hd := document_eq_write h
  have hs := hasSurrogate_write h
  by_cases hi : v.everywhere GoJson.isIntact
  · have hu := Utf8.encode?_of_intact (t := GoJson.write v) (by rw [hs, hi]; rfl)
    have he : encode v = .ok (GoJson.encode v) := by
      rw [encode, hd]
      simp only [bind, Except.bind, hu]
      rfl
    rw [he]
    simp [hi, eq_comm]
  · have hu := Utf8.encode?_eq_none_iff.mpr (show (GoJson.write v).hasSurrogate by simp [hs, hi])
    have he : encode v = .error .surrogate := by
      rw [encode, hd]
      simp only [bind, Except.bind, hu]
      rfl
    rw [he]
    simp [hi]

theorem encode_of_isWritable {v : Value} (h : v.everywhere GoJson.isWritable) :
    encode v = .ok (GoJson.encode v) := by
  have hv : v.everywhere GoJson.hasForm ∧ v.everywhere GoJson.isIntact := by
    rw [← Bool.and_eq_true, ← Value.everywhere_and]
    exact h
  exact (encode_eq_ok_iff hv.1).mpr ⟨hv.2, rfl⟩

/-- A record is writable if its fields are, since names hold no surrogates. -/
theorem isWritable_record {fields : List (String × Value)}
    (hf : ∀ f ∈ fields, f.2.everywhere GoJson.isWritable) :
    (Value.record fields).everywhere GoJson.isWritable := by
  refine Value.everywhere_record ?_ (fun f _ => ?_) hf
  · simp [GoJson.isWritable, GoJson.hasForm, GoJson.isIntact, Value.record, Value.kind]
  · simp [GoJson.isWritable, GoJson.hasForm, GoJson.isIntact]

theorem isWritable_hex (x : Bytes) : (Value.text (Hex.encode x)).everywhere GoJson.isWritable := by
  have hx : (Hex.encode x).hasSurrogate = false := by
    have hdigit : ∀ n < 16, (Hex.digit n : CodePoint).isSurrogate = false := by decide
    induction x with
    | nil => rfl
    | cons b x ih =>
      have hb : b.toNat < 256 := b.toNat_lt
      rw [Hex.encode, Text.hasSurrogate, List.any_cons, List.any_cons, hdigit _ (by omega),
        hdigit _ (by omega)]
      exact ih
  simp [Value.everywhere, GoJson.isWritable, GoJson.hasForm, GoJson.isIntact, hx]

private theorem flatMap_backslashes (n : Nat) :
    (List.replicate n (CodePoint.ofChar '\\')).flatMap GoJson.char =
      List.replicate (2 * n) (CodePoint.ofChar '\\') := by
  induction n with
  | zero => rfl
  | succ n ih =>
    have hc : GoJson.char '\\' = [CodePoint.ofChar '\\', CodePoint.ofChar '\\'] := by decide
    rw [List.replicate_succ, List.flatMap_cons, ih, hc]
    rfl

/-- The canonical encoding is the one-pass encoding. The passes over the document rewrite each
string by itself, keep every character that is neither to be escaped nor a backslash, and keep
apart a row of backslashes and the character behind it. -/
theorem encode_eq_goJson {v : Value} (h : v.everywhere GoJson.isWritable) :
    encode v = .ok (GoJson.encode v) ∧
    (∀ t rest : Text,
      escapeDocument (Json.string t ++ rest) = GoJson.string t ++ escapeDocument rest) ∧
    (∀ (c : CodePoint) (rest : Text), c ≠ '\\' → c ∉ escapes.map Prod.fst →
      escapeDocument (c :: rest) = c :: escapeDocument rest) ∧
    ∀ (n : Nat) (c : CodePoint) (rest : Text),
      escapeDocument (Json.string (List.replicate n (CodePoint.ofChar '\\') ++ [c]) ++ rest) =
        CodePoint.ofChar '"' :: (List.replicate (2 * n) (CodePoint.ofChar '\\') ++ GoJson.char c ++
          CodePoint.ofChar '"' :: escapeDocument rest) := by
  refine ⟨encode_of_isWritable h, escapeDocument_string, ?_, ?_⟩
  · intro c rest hc hm
    exact escapeDocument_inert (isInert_of_not_mem hc hm) rest
  · intro n c rest
    rw [escapeDocument_string]
    simp [GoJson.string, Text.between, flatMap_backslashes]

/-- Rows of backslashes before the letters of escapes, in a key and in texts. -/
theorem encode_backslashes :
    encode (.record [("\\b<", .array ["\\\\f", "\x08&", .tuple [.int (-12), .null]])]) =
      .ok ((Text.ofString
        "\x7b\"\\\\b\\u003c\":[\"\\\\\\\\f\",\"\\u0008\\u0026\",[-12,null]]\x7d").flatMap
          Utf8.encodeOne) :=
  (encode_eq_goJson (by decide +kernel)).1.trans (congrArg Except.ok (by decide +kernel))

end RelayClient
