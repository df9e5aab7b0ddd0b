import RelayClient.Proofs.CanonicalDocument
import RelayClient.Proofs.IntegerReading
import RelayClient.Proofs.Outcomes
import RelayClient.Proofs.StringReading
import RelayClient.Proofs.Utf8Reading

/-!
# Documents read back

Parsing undoes the canonical encoding. A value is read from its document and whatever follows, with
fuel enough for the characters of the document.
-/
namespace RelayClient.Json
open GoJson

/-- The kinds of value that a reader makes without fractions: the keys of an object are texts, and
no two of them are the same. -/
def isJson : Value → Bool
  | .null | .bool _ | .int _ | .text _ | .array _ => true
  | .object entries =>
    entries.all (fun e => e.1.kind = .text) &&
      decide (entries.Pairwise fun d e => d.1.same e.1 = false)
  | .float _ | .bytes _ | .tuple _ => false

/-- Whether the reader takes a value back from its document. -/
def isReadable (v : Value) : Bool := hasForm v && isJson v

private theorem set_of_fresh {acc : Entries} {k v : Value}
    (h : ∀ e ∈ acc, e.1.same k = false) : acc.set k v = acc ++ [(k, v)] := by
  induction acc with
  | nil => rfl
  | cons e acc ih =>
    rw [Entries.set, h e (List.mem_cons_self ..), ih fun d hd => h d (List.mem_cons_of_mem _ hd)]
    rfl

theorem isJson_of_kind {v : Value} (h : v.kind = .text ∨ v.kind = .int) : v.everywhere isJson := by
  cases v <;> simp_all [Value.kind, Value.everywhere, isJson]

/-- A record whose fields have different names is read back if its fields are. -/
theorem isJson_record {fields : List (String × Value)} (hn : (fields.map (·.1)).Nodup)
    (hf : ∀ f ∈ fields, f.2.everywhere isJson) : (Value.record fields).everywhere isJson := by
  refine Value.everywhere_record ?_ (fun _ _ => rfl) hf
  simp only [Value.record, isJson, Bool.and_eq_true, List.all_eq_true, decide_eq_true_eq]
  refine ⟨?_, List.pairwise_map.mpr ((List.pairwise_map.mp hn).imp fun hne => ?_)⟩
  · intro e he
    obtain ⟨f, -, rfl⟩ := List.mem_map.mp he
    rfl
  · exact beq_eq_false_iff_ne.mpr fun h => hne (Text.ofString_injective h)

/-- Entries no two of which have the same key stay as they are. -/
theorem ofPairs_eq_self {es : Entries} (h : es.Pairwise fun d e => d.1.same e.1 = false) :
    Entries.ofPairs es = es := by
  have step : ∀ acc : Entries, (∀ d ∈ acc, ∀ e ∈ es, d.1.same e.1 = false) →
      es.foldl (fun a p => a.set p.1 p.2) acc = acc ++ es := by
    induction es with
    | nil => simp
    | cons e es ih =>
      intro acc hacc
      rw [List.pairwise_cons] at h
      rw [List.foldl_cons, set_of_fresh fun d hd => hacc d hd _ (List.mem_cons_self ..), ih h.2]
      · simp
      · intro d hd f hf
        rcases List.mem_append.mp hd with hd | hd
        · exact hacc d hd f (List.mem_cons_of_mem _ hf)
        · rw [List.mem_singleton.mp hd]
          exact h.1 f hf
  exact step [] (by simp)

/-- A document begins with an ASCII character that is no blank and closes nothing. -/
theorem write_eq_cons {v : Value} (h : v.everywhere hasForm) :
    ∃ c t, GoJson.write v = c :: t ∧ isBlank c = false ∧ c ≠ ']' ∧ c.val < 0x80 := by
  cases v with
  | null => exact ⟨_, _, rfl, by decide, by decide, by decide⟩
  | bool b => cases b <;> exact ⟨_, _, rfl, by decide, by decide, by decide⟩
  | text t => exact ⟨_, _, rfl, by decide, by decide, by decide⟩
  | array items => exact ⟨_, _, rfl, by decide, by decide, by decide⟩
  | tuple items => exact ⟨_, _, rfl, by decide, by decide, by decide⟩
  | object entries => exact ⟨_, _, rfl, by decide, by decide, by decide⟩
  | float x => cases Value.holds_of_everywhere h
  | bytes b => cases Value.holds_of_everywhere h
  | int n =>
    obtain ⟨c, ds, hds, hc⟩ := ofNat_eq_cons n.natAbs
    rw [GoJson.write, Text.ofInt, hds]
    split
    · exact ⟨_, _, rfl, by decide, by decide, by decide⟩
    · refine ⟨c, ds, rfl, ?_, ?_, ?_⟩
      · rw [← Bool.not_eq_true]
        intro hb
        simp only [isBlank, Bool.or_eq_true, decide_eq_true_eq] at hb
        rcases hb with ((rfl | rfl) | rfl) | rfl <;> cases hc
      · rintro rfl
        cases hc
      · simp only [CodePoint.isDigit, Bool.and_eq_true, decide_eq_true_eq] at hc
        omega

theorem skipBlank_write {v : Value} (h : v.everywhere hasForm) (r : Text) :
    skipBlank (GoJson.write v ++ r) = GoJson.write v ++ r := by
  obtain ⟨c, t, ht, hb, -⟩ := write_eq_cons h
  rw [ht, List.cons_append, skipBlank, List.dropWhile_cons_of_neg (by simp [hb])]

theorem behind_ends {closing : Char} (hc : closing = ']' ∨ closing = '}') (parts : List Text)
    (r : Text) :
    Ends (behind closing parts ++ r) := by
  cases parts with
  | nil => rcases hc with rfl | rfl <;> simp [behind, Ends]
  | cons t parts =>
    rw [behind_cons]
    exact .inl rfl

theorem skipBlank_ends {r : Text} (h : Ends r) : skipBlank r = r := by
  cases r with
  | nil => rfl
  | cons c r =>
    have hb : isBlank c = false := by rcases h with rfl | rfl | rfl <;> decide
    rw [skipBlank, List.dropWhile_cons_of_neg (by simp [hb])]

/-- An entry is read if its value is. -/
theorem readEntry_write {k : Text} {v : Value} {fuel : Nat} {r : Text} (h : v.everywhere hasForm)
    (hv : readValue fuel (GoJson.write v ++ r) = some (v, r)) :
    readEntry (fuel + 1) (GoJson.key (.text k) ++ CodePoint.ofChar ':' :: (GoJson.write v ++ r)) =
      some ((.text k, v), r) := by
  have hs := readString_flatMap_char k (CodePoint.ofChar ':' :: (GoJson.write v ++ r))
  rw [GoJson.key, GoJson.string, Text.between]
  simp only [List.cons_append, List.append_assoc, List.nil_append]
  rw [readEntry, if_pos rfl, hs]
  simp only [Option.bind_eq_bind, Option.bind_some]
  rw [skipBlank, List.dropWhile_cons_of_neg (by decide)]
  dsimp only
  rw [if_pos rfl, skipBlank_write h, hv]
  rfl

theorem readValue_bracket {v : Value} {items : List Value} {fuel : Nat} {s r : Text}
    (h : v.everywhere hasForm) (hs : Ends s)
    (hv : readValue fuel (GoJson.write v ++ s) = some (v, s))
    (hi : readItems fuel s = some (items, r)) :
    readValue (fuel + 1) (CodePoint.ofChar '[' :: (GoJson.write v ++ s)) =
      some (.array (v :: items), r) := by
  have hb := skipBlank_write h s
  obtain ⟨c, t, ht, -, hc, -⟩ := write_eq_cons h
  rw [ht, List.cons_append] at hb hv ⊢
  rw [readValue, if_neg (by decide), if_pos rfl, hb]
  dsimp only
  rw [if_neg hc, hv]
  simp only [Option.bind_eq_bind, Option.bind_some, skipBlank_ends hs, hi]
  rfl

theorem readItems_comma {v : Value} {items : List Value} {fuel : Nat} {s r : Text}
    (h : v.everywhere hasForm) (hs : Ends s)
    (hv : readValue fuel (GoJson.write v ++ s) = some (v, s))
    (hi : readItems fuel s = some (items, r)) :
    readItems (fuel + 1) (CodePoint.ofChar ',' :: (GoJson.write v ++ s)) =
      some (v :: items, r) := by
  rw [readItems, if_neg (by decide), if_pos rfl, skipBlank_write h, hv]
  simp only [Option.bind_eq_bind, Option.bind_some, skipBlank_ends hs, hi]
  rfl

private theorem key_eq_cons (k : Text) : ∃ t, GoJson.key (.text k) = CodePoint.ofChar '"' :: t :=
  ⟨_, rfl⟩

theorem readValue_brace {k s r : Text} {v : Value} {entries : Entries} {fuel : Nat}
    (hd : ((Value.text k, v) :: entries).Pairwise fun d e => d.1.same e.1 = false) (hs : Ends s)
    (hk : readEntry fuel (GoJson.key (.text k) ++ CodePoint.ofChar ':' :: (GoJson.write v ++ s)) =
      some ((.text k, v), s))
    (hi : readEntries fuel s = some (entries, r)) :
    readValue (fuel + 1) (CodePoint.ofChar '{' ::
      (GoJson.key (.text k) ++ CodePoint.ofChar ':' :: (GoJson.write v ++ s))) =
      some (.object ((.text k, v) :: entries), r) := by
  obtain ⟨t, ht⟩ := key_eq_cons k
  rw [ht, List.cons_append] at hk ⊢
  rw [readValue, if_neg (by decide), if_neg (by decide), if_pos rfl, skipBlank,
    List.dropWhile_cons_of_neg (by decide)]
  dsimp only
  rw [if_neg (by decide), hk]
  simp only [Option.bind_eq_bind, Option.bind_some, skipBlank_ends hs, hi, ofPairs_eq_self hd]
  rfl

theorem readEntries_comma {k s r : Text} {v : Value} {entries : Entries} {fuel : Nat}
    (hs : Ends s)
    (hk : readEntry fuel (GoJson.key (.text k) ++ CodePoint.ofChar ':' :: (GoJson.write v ++ s)) =
      some ((.text k, v), s))
    (hi : readEntries fuel s = some (entries, r)) :
    readEntries (fuel + 1) (CodePoint.ofChar ',' ::
      (GoJson.key (.text k) ++ CodePoint.ofChar ':' :: (GoJson.write v ++ s))) =
      some ((.text k, v) :: entries, r) := by
  obtain ⟨t, ht⟩ := key_eq_cons k
  rw [ht, List.cons_append] at hk ⊢
  rw [readEntries, if_neg (by decide), if_pos rfl, skipBlank,
    List.dropWhile_cons_of_neg (by decide), hk]
  simp only [Option.bind_eq_bind, Option.bind_some, skipBlank_ends hs, hi]
  rfl

private theorem ofInt_eq_cons (n : Int) : ∃ c t, Text.ofInt n = c :: t ∧
    c ≠ CodePoint.ofChar '"' ∧ c ≠ CodePoint.ofChar '[' ∧ c ≠ CodePoint.ofChar '{' := by
  obtain ⟨c, ds, hds, hc⟩ := ofNat_eq_cons n.natAbs
  rw [Text.ofInt, hds]
  split
  · exact ⟨_, _, rfl, by decide, by decide, by decide⟩
  · refine ⟨c, ds, rfl, ?_, ?_, ?_⟩ <;> (rintro rfl; cases hc)

private theorem everywhere_hasForm {v : Value} (h : v.everywhere isReadable) :
    v.everywhere hasForm := by
  have hv : v.everywhere hasForm && v.everywhere isJson := by
    rw [← Value.everywhere_and]
    exact h
  exact (Bool.and_eq_true .. ▸ hv).1

private theorem exists_fuel {fuel : Nat} {c : CodePoint} {t : Text} (h : (c :: t).length ≤ fuel) :
    ∃ f, fuel = f + 1 ∧ t.length ≤ f := by
  cases fuel with
  | zero => cases h
  | succ f => exact ⟨f, rfl, Nat.le_of_succ_le_succ h⟩

mutual

/-- A value is read from its document, whatever ends it, with fuel for each of its characters. -/
theorem readValue_write : ∀ v : Value, v.everywhere isReadable → ∀ (fuel : Nat) (r : Text), Ends r →
    (GoJson.write v).length ≤ fuel → readValue fuel (GoJson.write v ++ r) = some (v, r)
  | .null => by
    intro _ fuel r _ hf
    obtain ⟨f, rfl, -⟩ := exists_fuel hf
    rfl
  | .bool b => by
    intro _ fuel r _ hf
    cases b <;> (obtain ⟨f, rfl, -⟩ := exists_fuel hf; rfl)
  | .int n => by
    intro h fuel r hr hf
    simp only [Value.everywhere, isReadable, hasForm, isJson, Bool.and_true,
      decide_eq_true_eq] at h
    obtain ⟨c, t, ht, hq⟩ := ofInt_eq_cons n
    have ha := readAtom_ofInt h hr
    rw [GoJson.write, ht] at hf ⊢
    obtain ⟨f, rfl, -⟩ := exists_fuel hf
    rw [ht, List.cons_append] at ha
    rw [List.cons_append, readValue, if_neg hq.1, if_neg hq.2.1, if_neg hq.2.2, ha]
  | .text t => by
    intro _ fuel r _ hf
    obtain ⟨f, rfl, -⟩ := exists_fuel hf
    have hs := readString_flatMap_char t r
    rw [GoJson.write, GoJson.string, Text.between]
    simp only [List.cons_append, List.append_assoc, List.nil_append]
    rw [readValue, if_pos rfl, hs]
    rfl
  | .array [] => by
    intro _ fuel r _ hf
    obtain ⟨f, rfl, -⟩ := exists_fuel hf
    rfl
  | .array (v :: items) => by
    intro h fuel r hr hf
    simp only [Value.everywhere, Value.everywhereIn, Bool.and_eq_true] at h
    rw [GoJson.write, GoJson.writeItems, between_joined] at hf ⊢
    obtain ⟨f, rfl, hl⟩ := exists_fuel hf
    rw [List.length_append] at hl
    rw [List.cons_append, List.append_assoc]
    have hs := behind_ends (.inl rfl) (GoJson.writeItems items) r
    exact readValue_bracket (everywhere_hasForm h.2.1) hs
      (readValue_write v h.2.1 f _ hs (by omega)) (readItems_write items h.2.2 f r (by omega))
  | .object [] => by
    intro _ fuel r _ hf
    obtain ⟨f, rfl, -⟩ := exists_fuel hf
    rfl
  | .object ((k, v) :: entries) => by
    intro h fuel r hr hf
    simp only [Value.everywhere, Value.everywhereUnder, isReadable, hasForm, isJson, List.all_cons,
      Bool.and_eq_true, decide_eq_true_eq] at h
    obtain ⟨⟨hk, -, hd⟩, ⟨-, hv⟩, he⟩ := h
    obtain ⟨k, rfl⟩ := Value.eq_text_of_kind hk.1
    rw [GoJson.write, GoJson.writeEntries, between_joined] at hf ⊢
    obtain ⟨f, rfl, hl⟩ := exists_fuel hf
    simp only [List.length_append, List.length_cons] at hl
    simp only [List.cons_append, List.append_assoc]
    have hs := behind_ends (.inr rfl) (GoJson.writeEntries entries) r
    obtain ⟨g, rfl⟩ : ∃ g, f = g + 1 := ⟨f - 1, by omega⟩
    exact readValue_brace hd hs
      (readEntry_write (everywhere_hasForm hv) (readValue_write v hv g _ hs (by omega)))
      (readEntries_write entries hk.2 he (g + 1) r (by omega))
  | .tuple _ => by
    intro h
    cases Value.holds_of_everywhere h
  | .float _ => by
    intro h
    cases Value.holds_of_everywhere h
  | .bytes _ => by
    intro h
    cases Value.holds_of_everywhere h

theorem readItems_write : ∀ items : List Value, Value.everywhereIn isReadable items →
    ∀ (fuel : Nat) (r : Text), (behind ']' (GoJson.writeItems items)).length ≤ fuel →
    readItems fuel (behind ']' (GoJson.writeItems items) ++ r) = some (items, r)
  | [] => by
    intro _ fuel r hf
    obtain ⟨f, rfl, -⟩ := exists_fuel hf
    rfl
  | v :: items => by
    intro h fuel r hf
    simp only [Value.everywhereIn, Bool.and_eq_true] at h
    rw [GoJson.writeItems, behind_cons] at hf ⊢
    obtain ⟨f, rfl, hl⟩ := exists_fuel hf
    rw [List.length_append] at hl
    rw [List.cons_append, List.append_assoc]
    have hs := behind_ends (.inl rfl) (GoJson.writeItems items) r
    exact readItems_comma (everywhere_hasForm h.1) hs
      (readValue_write v h.1 f _ hs (by omega)) (readItems_write items h.2 f r (by omega))

theorem readEntries_write : ∀ entries : Entries, entries.all (fun e => e.1.kind = .text) →
    Value.everywhereUnder isReadable entries →
    ∀ (fuel : Nat) (r : Text), (behind '}' (GoJson.writeEntries entries)).length ≤ fuel →
    readEntries fuel (behind '}' (GoJson.writeEntries entries) ++ r) = some (entries, r)
  | [] => by
    intro _ _ fuel r hf
    obtain ⟨f, rfl, -⟩ := exists_fuel hf
    rfl
  | (k, v) :: entries => by
    intro hk h fuel r hf
    simp only [Value.everywhereUnder, List.all_cons, Bool.and_eq_true, decide_eq_true_eq] at hk h
    obtain ⟨k, rfl⟩ := Value.eq_text_of_kind hk.1
    rw [GoJson.writeEntries, behind_cons] at hf ⊢
    obtain ⟨f, rfl, hl⟩ := exists_fuel hf
    simp only [List.length_append, List.length_cons] at hl
    simp only [List.cons_append, List.append_assoc]
    have hs := behind_ends (.inr rfl) (GoJson.writeEntries entries) r
    obtain ⟨g, rfl⟩ : ∃ g, f = g + 1 := ⟨f - 1, by omega⟩
    exact readEntries_comma hs
      (readEntry_write (everywhere_hasForm h.1.2) (readValue_write v h.1.2 g _ hs (by omega)))
      (readEntries_write entries hk.2 h.2 (g + 1) r (by omega))

end

/-- A value is parsed from its one-pass document. -/
theorem parse?_goJson {v : Value} (h : v.everywhere isReadable) :
    parse? (GoJson.encode v) = some v := by
  have hf := everywhere_hasForm h
  have hr := readValue_write v h ((GoJson.write v).length + 1) [] trivial (Nat.le_succ _)
  have hb := skipBlank_write hf []
  rw [List.append_nil] at hr hb
  have hd : decodeText? (GoJson.encode v) = some (GoJson.write v) := by
    obtain ⟨c, t, ht, -, -, hc⟩ := write_eq_cons hf
    rw [GoJson.encode, ht]
    refine decodeText?_flatMap_encodeOne hc fun d hd => ?_
    have hle := le_of_mem_write hf (ht ▸ hd)
    omega
  rw [parse?, hd, Option.bind_some, read?, hb, hr]
  rfl

mutual

/-- Of the values that a reader makes only those in form are written. -/
theorem hasForm_of_write : ∀ (v : Value) {t : Text}, v.everywhere isJson → Json.write v = .ok t →
    v.everywhere hasForm
  | .null, _ => fun _ _ => rfl
  | .bool _, _ => fun _ _ => rfl
  | .text _, _ => fun _ _ => rfl
  | .int n, t => by
    intro _ ht
    rw [Json.write, Json.integer] at ht
    split at ht
    · rename_i hn
      simpa only [Value.everywhere, hasForm, decide_eq_true_eq] using hn
    · cases ht
  | .array items, t => by
    intro h ht
    simp only [Value.everywhere, Bool.and_eq_true] at h
    rw [Value.everywhere, hasForm_of_writeArray items h.2 ht]
    rfl
  | .object [], _ => fun _ _ => rfl
  | .object ((k, v) :: entries), t => by
    intro h ht
    simp only [Value.everywhere, Value.everywhereUnder, isJson, List.all_cons, Bool.and_eq_true,
      decide_eq_true_eq] at h
    obtain ⟨⟨hk, -⟩, ⟨-, hv⟩, he⟩ := h
    simp only [Json.write, bind_eq_ok_iff] at ht
    obtain ⟨-, -, _, hv', _, he', -⟩ := ht
    obtain ⟨k, rfl⟩ := Value.eq_text_of_kind hk.1
    simp only [Value.everywhere, Value.everywhereUnder, hasForm, List.all_cons, Bool.and_eq_true,
      decide_eq_true_eq]
    exact ⟨hk, ⟨trivial, hasForm_of_write v hv hv'⟩, hasForm_of_writeEntries entries hk.2 he he'⟩
  | .tuple _, _ => by
    intro h
    cases Value.holds_of_everywhere h
  | .float _, _ => by
    intro h
    cases Value.holds_of_everywhere h
  | .bytes _, _ => by
    intro h
    cases Value.holds_of_everywhere h

theorem hasForm_of_writeArray : ∀ (items : List Value) {t : Text},
    Value.everywhereIn isJson items → Json.writeArray items = .ok t →
    Value.everywhereIn hasForm items
  | [], _ => fun _ _ => rfl
  | v :: items, t => by
    intro h ht
    simp only [Value.everywhereIn, Bool.and_eq_true] at h ⊢
    simp only [Json.writeArray, bind_eq_ok_iff] at ht
    obtain ⟨_, hv, _, hi, -⟩ := ht
    exact ⟨hasForm_of_write v h.1 hv, hasForm_of_writeItems items h.2 hi⟩

theorem hasForm_of_writeItems : ∀ (items : List Value) {t : Text},
    Value.everywhereIn isJson items → Json.writeItems items = .ok t →
    Value.everywhereIn hasForm items
  | [], _ => fun _ _ => rfl
  | v :: items, t => by
    intro h ht
    simp only [Value.everywhereIn, Bool.and_eq_true] at h ⊢
    simp only [Json.writeItems, bind_eq_ok_iff] at ht
    obtain ⟨_, hv, _, hi, -⟩ := ht
    exact ⟨hasForm_of_write v h.1 hv, hasForm_of_writeItems items h.2 hi⟩

theorem hasForm_of_writeEntries : ∀ (entries : Entries) {t : Text},
    entries.all (fun e => e.1.kind = .text) → Value.everywhereUnder isJson entries →
    Json.writeEntries entries = .ok t → Value.everywhereUnder hasForm entries
  | [], _ => fun _ _ _ => rfl
  | (k, v) :: entries, t => by
    intro hk h ht
    simp only [List.all_cons, Value.everywhereUnder, Bool.and_eq_true, decide_eq_true_eq] at hk h ⊢
    simp only [Json.writeEntries, bind_eq_ok_iff] at ht
    obtain ⟨-, -, _, hv, _, he, -⟩ := ht
    obtain ⟨k, rfl⟩ := Value.eq_text_of_kind hk.1
    exact ⟨⟨rfl, hasForm_of_write v h.1.2 hv⟩, hasForm_of_writeEntries entries hk.2 h.2 he⟩

end

theorem parse?_of_encode {v : Value} {b : Bytes} (h : v.everywhere isJson)
    (hb : Canonical.encode v = .ok b) : parse? b = some v := by
  have hf : v.everywhere hasForm := by
    simp only [Canonical.encode, Canonical.document, bind_eq_ok_iff] at hb
    obtain ⟨_, ⟨_, hw, -⟩, -⟩ := hb
    exact hasForm_of_write v h hw
  have hr : v.everywhere isReadable := by
    have hand := Value.everywhere_and (p := hasForm) (q := isJson) v
    rw [hf, h] at hand
    exact hand
  rw [((encode_eq_ok_iff hf).mp hb).2]
  exact parse?_goJson hr

/-- No two values have the same canonical bytes. -/
theorem eq_of_encode {v w : Value} {b : Bytes} (hv : v.everywhere isJson) (hw : w.everywhere isJson)
    (hvb : Canonical.encode v = .ok b) (hwb : Canonical.encode w = .ok b) : v = w :=
  Option.some.inj ((parse?_of_encode hv hvb).symm.trans (parse?_of_encode hw hwb))

/-- Parsing undoes the canonical encoding, so that the bytes determine the value, and encoding what
was parsed makes the bytes again. -/
theorem parse?_canonical {v : Value} {b : Bytes} (h : v.everywhere isJson)
    (hb : Canonical.encode v = .ok b) :
    parse? b = some v ∧
    (∀ w : Value, w.everywhere isJson → Canonical.encode w = .ok b → w = v) ∧
    ∀ w : Value, parse? b = some w → Canonical.encode w = .ok b := by
  have hp := parse?_of_encode h hb
  refine ⟨hp, fun w hw hwb => eq_of_encode hw h hwb hb, ?_⟩
  intro w hw
  rw [hp] at hw
  obtain rfl := Option.some.inj hw
  exact hb

/-- A key that looks like the end of a string, and texts with escapes of each kind. -/
theorem parse?_canonical_delimiters :
    parse? ((Text.ofString
        "\x7b\"\\\":[]\":[-120,\"\\u0008\\\\u003c\u20ac\\u2028\",\x7b\x7d],\"\":true\x7d").flatMap
          Utf8.encodeOne) =
      some (.record [("\":[]", .array [.int (-120), "\x08\\u003c\u20ac\u2028", .object []]),
        ("", .bool true)]) :=
  (parse?_canonical (by decide +kernel)
    ((encode_eq_ok_iff (by decide +kernel)).mpr ⟨by decide +kernel, by decide +kernel⟩)).1

end RelayClient.Json
