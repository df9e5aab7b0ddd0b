import RelayClient.Canonical

/-!
# What the escaping passes do to a document

The passes run over a finished document. From left to right they agree with a rewriting of single
characters and escape pairs, each of which is independent of what stands before and behind it.
-/
namespace RelayClient.Canonical

/-- Neither the beginning of an escape pair nor one of the characters to be escaped. -/
def isInert (c : CodePoint) : Bool := c ≠ '\\' && escapes.all fun e => c ≠ e.1

/-- What the replacements, made one after the other, leave in the place of a character. -/
def escapeLast (c : CodePoint) : Text := escapes.foldl replaceAll [c]

/-- Replacements made in turn over a whole text are made at each character alone. -/
theorem foldl_replaceAll (es : List (CodePoint × Text)) (t : Text) :
    es.foldl replaceAll t = t.flatMap fun c => es.foldl replaceAll [c] := by
  induction es generalizing t with
  | nil => simp
  | cons e es ih =>
    have hc (c : CodePoint) : es.foldl replaceAll (replaceAll [c] e) =
        (if c = e.1 then e.2 else [c]).flatMap fun d => es.foldl replaceAll [d] := by
      rw [ih]
      simp [replaceAll]
    simp only [List.foldl_cons, hc]
    rw [ih, replaceAll, List.flatMap_assoc]

theorem escapeDocument_eq_flatMap (t : Text) :
    escapeDocument t = (lengthenEscapes t).flatMap escapeLast :=
  foldl_replaceAll escapes _

theorem isInert_of_not_mem {c : CodePoint} (h : c ≠ '\\') (hm : c ∉ escapes.map Prod.fst) :
    isInert c := by
  simp only [isInert, Bool.and_eq_true, decide_eq_true_eq, List.all_eq_true]
  exact ⟨h, fun e he hce => hm (hce ▸ List.mem_map_of_mem he)⟩

theorem escapeLast_of_isInert {c : CodePoint} (h : isInert c) : escapeLast c = [c] := by
  simp only [isInert, escapes, List.all_cons, List.all_nil, Bool.and_true, Bool.and_eq_true,
    decide_eq_true_eq] at h
  simp [escapeLast, escapes, replaceAll, h]

theorem lengthenEscapes_cons {c : CodePoint} (h : c ≠ '\\') (s : Text) :
    lengthenEscapes (c :: s) = c :: lengthenEscapes s := by
  cases s with
  | nil => rfl
  | cons d s => simp [lengthenEscapes, h]

theorem lengthenEscapes_pair {d : CodePoint} (h : d ≠ '\n') (s : Text) :
    lengthenEscapes ('\\' :: d :: s) = (longEscape d).getD ['\\', d] ++ lengthenEscapes s := by
  rw [lengthenEscapes]
  cases longEscape d <;> simp [h]

theorem escapeDocument_cons {c : CodePoint} (h : c ≠ '\\') (s : Text) :
    escapeDocument (c :: s) = escapeLast c ++ escapeDocument s := by
  simp [escapeDocument_eq_flatMap, lengthenEscapes_cons h]

/-- An escape pair is rewritten as a whole, so that no later one begins inside it. -/
theorem escapeDocument_pair {d : CodePoint} (h : d ≠ '\n') (s : Text) :
    escapeDocument ('\\' :: d :: s) =
      ((longEscape d).getD ['\\', d]).flatMap escapeLast ++ escapeDocument s := by
  simp [escapeDocument_eq_flatMap, lengthenEscapes_pair h]

theorem escapeDocument_inert {c : CodePoint} (h : isInert c) (s : Text) :
    escapeDocument (c :: s) = c :: escapeDocument s := by
  have hc : c ≠ '\\' := by
    simp only [isInert, Bool.and_eq_true, decide_eq_true_eq] at h
    exact h.1
  rw [escapeDocument_cons hc, escapeLast_of_isInert h, List.singleton_append]

theorem escapeDocument_append {t : Text} (h : t.all isInert) (s : Text) :
    escapeDocument (t ++ s) = t ++ escapeDocument s := by
  induction t with
  | nil => rfl
  | cons c t ih =>
    rw [List.all_cons, Bool.and_eq_true] at h
    rw [List.cons_append, escapeDocument_inert h.1, ih h.2, List.cons_append]

@[simp] theorem escapeDocument_nil : escapeDocument [] = [] := rfl

end RelayClient.Canonical
