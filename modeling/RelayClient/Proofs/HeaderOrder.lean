import RelayClient.Proofs.DocumentReading
import RelayClient.SortedMap

/-!
# Headers in key order

Headers are a map from texts to texts. In key order they are a list that depends on the map only,
and from which the map can be recovered.
-/
namespace RelayClient

namespace Text

theorem lt_irrefl (t : Text) : t.lt t = false := by
  induction t with
  | nil => rfl
  | cons a t ih => simp [lt, ih]

theorem lt_trans {s t u : Text} (hst : s.lt t) (htu : t.lt u) : s.lt u := by
  induction s generalizing t u with
  | nil =>
    cases u with
    | nil => cases t <;> exact absurd htu (by simp [lt])
    | cons c u => rfl
  | cons a s ih =>
    cases t with
    | nil => exact absurd hst (by simp [lt])
    | cons b t =>
      cases u with
      | nil => exact absurd htu (by simp [lt])
      | cons c u =>
        simp only [lt, Bool.or_eq_true, Bool.and_eq_true, decide_eq_true_eq, beq_iff_eq]
          at hst htu ⊢
        rcases hst with hab | ⟨hab, hst⟩ <;> rcases htu with hbc | ⟨hbc, htu⟩
        · exact .inl (by omega)
        · exact .inl (by omega)
        · exact .inl (by omega)
        · exact .inr ⟨by omega, ih hst htu⟩

theorem lt_or_eq_or_lt (s t : Text) : s.lt t ∨ s = t ∨ t.lt s := by
  induction s generalizing t with
  | nil =>
    cases t with
    | nil => exact .inr (.inl rfl)
    | cons b t => exact .inl rfl
  | cons a s ih =>
    cases t with
    | nil => exact .inr (.inr rfl)
    | cons b t =>
      simp only [lt, Bool.or_eq_true, Bool.and_eq_true, decide_eq_true_eq, beq_iff_eq]
      rcases Nat.lt_trichotomy a.val b.val with hab | hab | hab
      · exact .inl (.inl hab)
      · rcases ih t with h | h | h
        · exact .inl (.inr ⟨hab, h⟩)
        · exact .inr (.inl (by rw [CodePoint.eq_of_val hab, h]))
        · exact .inr (.inr (.inr ⟨hab.symm, h⟩))
      · exact .inr (.inr (.inl hab))

end Text

namespace Entries

/-- A map from texts to texts, no key being there twice. -/
def isTextMap (es : Entries) : Bool :=
  es.all (fun e => e.1.kind = .text && e.2.kind = .text) &&
    decide (es.Pairwise fun d e => d.1.same e.1 = false)

/-- Whether the key of the first entry does not come after that of the second, both shown. -/
private def shownOrder (d e : Value × Value) : Bool := !e.1.display.lt d.1.display

private theorem not_lt_of_shownOrder {d e : Value × Value} (h : shownOrder d e) :
    ¬ e.1.display.lt d.1.display := by
  intro hlt
  rw [shownOrder, hlt] at h
  exact Bool.false_ne_true h

private theorem shownOrder_trans (c d e : Value × Value) (hcd : shownOrder c d)
    (hde : shownOrder d e) : shownOrder c e := by
  have hdc := not_lt_of_shownOrder hcd
  have hed := not_lt_of_shownOrder hde
  rw [shownOrder, Bool.not_eq_true', Bool.eq_false_iff]
  intro hec
  rcases Text.lt_or_eq_or_lt c.1.display d.1.display with h | h | h
  · exact hed (Text.lt_trans hec h)
  · exact hed (h ▸ hec)
  · exact hdc h

private theorem shownOrder_total (d e : Value × Value) : shownOrder d e || shownOrder e d := by
  rw [Bool.or_eq_true, shownOrder, shownOrder, Bool.not_eq_true', Bool.not_eq_true']
  cases hed : e.1.display.lt d.1.display with
  | false => exact .inl rfl
  | true =>
    refine .inr (Bool.eq_false_iff.mpr fun hde => ?_)
    exact Bool.false_ne_true ((Text.lt_irrefl _).symm.trans (Text.lt_trans hde hed))

private theorem display_eq_of_shownOrder {d e : Value × Value} (hde : shownOrder d e)
    (hed : shownOrder e d) : d.1.display = e.1.display := by
  rcases Text.lt_or_eq_or_lt d.1.display e.1.display with h | h | h
  · exact absurd h (not_lt_of_shownOrder hed)
  · exact h
  · exact absurd h (not_lt_of_shownOrder hde)

variable {es fs : Entries}

theorem all_text_of_isTextMap (h : es.isTextMap) : es.all fun e => e.1.kind = .text := by
  simp only [isTextMap, Bool.and_eq_true, List.all_eq_true, decide_eq_true_eq] at h ⊢
  exact fun e he => (h.1 e he).1

/-- No two keys are the same, and no two are shown in the same way. -/
private theorem pairwise_same_iff (h : es.all fun e => e.1.kind = .text) :
    (es.Pairwise fun d e => d.1.same e.1 = false) ↔ (es.map (·.1.display)).Nodup := by
  have hsame : ∀ d ∈ es, ∀ e ∈ es, d.1.same e.1 = false ↔ d.1.display ≠ e.1.display := by
    intro d hd e he
    obtain ⟨s, hs⟩ := Value.eq_text_of_kind (of_decide_eq_true (List.all_eq_true.mp h d hd))
    obtain ⟨t, ht⟩ := Value.eq_text_of_kind (of_decide_eq_true (List.all_eq_true.mp h e he))
    rw [hs, ht, Value.same, Value.display, Value.display]
    exact beq_eq_false_iff_ne
  rw [List.Nodup, List.pairwise_map]
  constructor
  · exact List.Pairwise.imp_of_mem fun hd he h => (hsame _ hd _ he).mp h
  · exact List.Pairwise.imp_of_mem fun hd he h => (hsame _ hd _ he).mpr h

private theorem nodup_display (h : es.isTextMap) : (es.map (·.1.display)).Nodup := by
  have hk := all_text_of_isTextMap h
  simp only [isTextMap, Bool.and_eq_true, decide_eq_true_eq] at h
  exact (pairwise_same_iff hk).mp h.2

private theorem eq_of_display {d e : Value × Value} (h : (es.map (·.1.display)).Nodup)
    (hd : d ∈ es) (he : e ∈ es) (hde : d.1.display = e.1.display) : d = e := by
  induction es with
  | nil => cases hd
  | cons f es ih =>
    rw [List.map_cons, List.nodup_cons] at h
    have hfresh : ∀ g ∈ es, f.1.display ≠ g.1.display := by
      intro g hg hfg
      exact h.1 (hfg ▸ List.mem_map_of_mem hg)
    rcases List.mem_cons.mp hd with rfl | hd' <;> rcases List.mem_cons.mp he with rfl | he'
    · rfl
    · exact absurd hde (hfresh e he')
    · exact absurd hde.symm (hfresh d hd')
    · exact ih h.2 hd' he'

private theorem nodup_of_display (h : (es.map (·.1.display)).Nodup) : es.Nodup :=
  List.Pairwise.of_map _ (fun _ _ hne he => hne (congrArg (·.1.display) he)) h

private theorem pairwise_shownOrder (h : es.all fun e => e.1.kind = .text) :
    (es.mergeSort textOrder).Pairwise fun d e => shownOrder d e := by
  have horder : ∀ d ∈ es, ∀ e ∈ es, textOrder d e = shownOrder (id d) (id e) := by
    rintro ⟨k, v⟩ hd ⟨l, w⟩ he
    obtain ⟨s, rfl⟩ := Value.eq_text_of_kind (of_decide_eq_true (List.all_eq_true.mp h _ hd))
    obtain ⟨t, rfl⟩ := Value.eq_text_of_kind (of_decide_eq_true (List.all_eq_true.mp h _ he))
    rfl
  have hsort := List.map_mergeSort horder
  rw [List.map_id, List.map_id] at hsort
  rw [hsort]
  exact List.pairwise_mergeSort shownOrder_trans shownOrder_total es

theorem sorted_of_isTextMap (h : es.isTextMap) : es.sorted = .ok (es.mergeSort textOrder) := by
  rw [sorted, if_pos (all_text_of_isTextMap h)]

/-- Two lists of the same entries have one order by their keys, if no key is there twice. -/
theorem mergeSort_eq_of_perm (h : es.all fun e => e.1.kind = .text)
    (hes : es.Pairwise fun d e => d.1.same e.1 = false) (hperm : es.Perm fs) :
    es.mergeSort textOrder = fs.mergeSort textOrder := by
  have hnodup := (pairwise_same_iff h).mp hes
  have hfs : fs.all fun e => e.1.kind = .text := by
    rw [List.all_eq_true] at h ⊢
    exact fun e he => h e (hperm.mem_iff.mpr he)
  refine List.Perm.eq_of_pairwise ?_ (pairwise_shownOrder h) (pairwise_shownOrder hfs)
    ((List.mergeSort_perm es _).trans (hperm.trans (List.mergeSort_perm fs _).symm))
  intro d e hd he hde hed
  rw [List.mem_mergeSort] at hd he
  exact eq_of_display hnodup hd (hperm.mem_iff.mpr he) (display_eq_of_shownOrder hde hed)

/-- Keys that are texts, none of them there twice, are strictly ascending when they are in order. -/
theorem pairwise_lt_mergeSort (h : es.all fun e => e.1.kind = .text)
    (hes : es.Pairwise fun d e => d.1.same e.1 = false) :
    (es.mergeSort textOrder).Pairwise fun d e => d.1.display.lt e.1.display := by
  have hnodup := (pairwise_same_iff h).mp hes
  rw [← ((List.mergeSort_perm es textOrder).map (·.1.display)).nodup_iff, List.Nodup,
    List.pairwise_map] at hnodup
  refine ((pairwise_shownOrder h).and hnodup).imp ?_
  rintro d e ⟨hde, hne⟩
  rcases Text.lt_or_eq_or_lt d.1.display e.1.display with hlt | heq | hgt
  · exact hlt
  · exact absurd heq hne
  · exact absurd hgt (not_lt_of_shownOrder hde)

/-- The order in which a map was filled makes no difference to its entries in key order. -/
theorem sorted_eq_of_mem_iff (he : es.isTextMap) (hf : fs.isTextMap) (h : ∀ e, e ∈ es ↔ e ∈ fs) :
    es.sorted = fs.sorted := by
  have hkeys := all_text_of_isTextMap he
  have hes := nodup_display he
  have hperm : es.Perm fs :=
    (List.perm_ext_iff_of_nodup (nodup_of_display hes) (nodup_of_display (nodup_display hf))).mpr h
  rw [sorted_of_isTextMap he, sorted_of_isTextMap hf,
    mergeSort_eq_of_perm hkeys ((pairwise_same_iff hkeys).mpr hes) hperm]

/-- A map in key order is the same map. -/
theorem isTextMap_mergeSort (h : es.isTextMap) : isTextMap (es.mergeSort textOrder) := by
  have hperm := List.mergeSort_perm es textOrder
  have hnodup := (hperm.map (·.1.display)).nodup_iff.mpr (nodup_display h)
  have hall : ∀ e ∈ es.mergeSort textOrder, e.1.kind = .text ∧ e.2.kind = .text := by
    intro e he
    simp only [isTextMap, Bool.and_eq_true, List.all_eq_true, decide_eq_true_eq] at h
    exact h.1 e (hperm.mem_iff.mp he)
  have hkeys : (es.mergeSort textOrder).all fun e => e.1.kind = .text :=
    List.all_eq_true.mpr fun e he => decide_eq_true (hall e he).1
  simp only [isTextMap, Bool.and_eq_true, List.all_eq_true, decide_eq_true_eq]
  exact ⟨hall, (pairwise_same_iff hkeys).mpr hnodup⟩

theorem isJson_of_isTextMap (h : es.isTextMap) : (Value.object es).everywhere Json.isJson := by
  have hk := all_text_of_isTextMap h
  simp only [isTextMap, Bool.and_eq_true, List.all_eq_true, decide_eq_true_eq] at h
  have hes : Value.everywhereUnder Json.isJson es := by
    refine Value.everywhereUnder_of_forall_mem fun e he => ?_
    exact ⟨Json.isJson_of_kind (.inl (h.1 e he).1), Json.isJson_of_kind (.inl (h.1 e he).2)⟩
  rw [Value.everywhere, Json.isJson, hk, hes, decide_eq_true h.2]
  rfl

end Entries

variable {headers : Option Entries}

/-- Headers in key order are absent or an object, and can be read back. -/
theorem exists_sortedMap (h : headers.all Entries.isTextMap) :
    ∃ v, sortedMap headers = .ok v ∧ v.everywhere Json.isJson := by
  cases headers with
  | none => exact ⟨.null, rfl, rfl⟩
  | some es =>
    refine ⟨.object (es.mergeSort Entries.textOrder), ?_,
      Entries.isJson_of_isTextMap (Entries.isTextMap_mergeSort h)⟩
    rw [sortedMap, Entries.sorted_of_isTextMap h]
    rfl

/-- Headers in key order are the list that holds the same entries in this order. -/
theorem sortedMap_of_pairwise {es fs : Entries} (he : es.isTextMap) (hf : fs.isTextMap)
    (h : ∀ e, e ∈ es ↔ e ∈ fs) (hs : fs.Pairwise fun d e => Entries.textOrder d e) :
    sortedMap (some es) = .ok (.object fs) := by
  rw [sortedMap, Entries.sorted_eq_of_mem_iff he hf h, Entries.sorted_of_isTextMap hf,
    List.mergeSort_of_pairwise hs]
  rfl

/-- Two header fields that are absent, or that are the same map. -/
def SameHeaders : Option Entries → Option Entries → Prop
  | none, none => True
  | some es, some fs => ∀ e, e ∈ es ↔ e ∈ fs
  | _, _ => False

/-- Headers in key order are equal exactly if the headers are the same. -/
theorem sortedMap_eq_iff {headers' : Option Entries} (h : headers.all Entries.isTextMap)
    (h' : headers'.all Entries.isTextMap) :
    sortedMap headers = sortedMap headers' ↔ SameHeaders headers headers' := by
  cases headers with
  | none =>
    cases headers' with
    | none => simp [SameHeaders]
    | some fs =>
      rw [sortedMap, sortedMap, Entries.sorted_of_isTextMap h']
      simp [SameHeaders, bind, Except.bind, pure, Except.pure]
  | some es =>
    cases headers' with
    | none =>
      rw [sortedMap, sortedMap, Entries.sorted_of_isTextMap h]
      simp [SameHeaders, bind, Except.bind, pure, Except.pure]
    | some fs =>
      constructor
      · intro heq e
        rw [sortedMap, sortedMap, Entries.sorted_of_isTextMap h,
          Entries.sorted_of_isTextMap h'] at heq
        have hsort := Value.object.inj (Except.ok.inj heq)
        have hmem : e ∈ es ↔ e ∈ es.mergeSort Entries.textOrder := List.mem_mergeSort.symm
        rw [hmem, hsort, List.mem_mergeSort]
      · intro hmem
        rw [sortedMap, sortedMap, Entries.sorted_eq_of_mem_iff h h' hmem]

end RelayClient
