import RelayClient.Canonical
import RelayClient.Proofs.Everywhere

/-!
# The canonical document in one pass

Servicers marshal values with Go's encoder, which writes a document from left to right and decides
about each character of a string by itself. The canonical encoding is the same document, although
it is reached by passes over plain JSON text.
-/
namespace RelayClient

namespace GoJson

/-- The escape of a character by its number in four digits. -/
def numericEscape (c : CodePoint) : Text := '\\' :: 'u' :: Hex.fixed 4 c.val

/-- A character as it stands in a string. -/
def char (c : CodePoint) : Text :=
  if c = '"' || c = '\\' then ['\\', c]
  else if c = '\n' then ['\\', 'n']
  else if c = '\r' then ['\\', 'r']
  else if c = '\t' then ['\\', 't']
  else if c.val < 0x20 || c = '<' || c = '>' || c = '&' || c.val = 0x2028 || c.val = 0x2029 then
    numericEscape c
  else [c]

/-- The characters that are written by a letter, with their letters. -/
def shortEscapes : List (CodePoint × CodePoint) :=
  [('"', '"'), ('\\', '\\'), ('\n', 'n'), ('\r', 'r'), ('\t', 't')]

def string (t : Text) : Text := Text.between '"' '"' (t.flatMap char)

/-- The key of an entry as a string; only texts are keys. -/
def key : Value → Text
  | .text t => string t
  | _ => []

mutual

/-- A value without numbers other than integers, written without blanks. -/
def write : Value → Text
  | .null => "null"
  | .bool b => if b then "true" else "false"
  | .int n => Text.ofInt n
  | .text t => string t
  | .array items => Text.between '[' ']' (Text.joined [','] (writeItems items))
  | .tuple items => Text.between '[' ']' (Text.joined [','] (writeItems items))
  | .object entries => Text.between '{' '}' (Text.joined [','] (writeEntries entries))
  | .float _ => []
  | .bytes _ => []

def writeItems : List Value → List Text
  | [] => []
  | v :: r => write v :: writeItems r

def writeEntries : List (Value × Value) → List Text
  | [] => []
  | (k, v) :: r => (key k ++ (':' : CodePoint) :: write v) :: writeEntries r

end

def encode (v : Value) : Bytes := (write v).flatMap Utf8.encodeOne

/-- Values of the kinds that JSON has, without fractions, their integers not too long to be written
and their keys texts. -/
def hasForm : Value → Bool
  | .null | .bool _ | .text _ | .array _ | .tuple _ => true
  | .int n => n.natAbs < Nat.pow 10 maxDigits
  | .object entries => entries.all fun e => e.1.kind = .text
  | .float _ | .bytes _ => false

def isIntact : Value → Bool
  | .text t => !t.hasSurrogate
  | _ => true

def isWritable (v : Value) : Bool := hasForm v && isIntact v

end GoJson

/-- The parts after the first, each behind a comma, and the closing bracket. -/
def GoJson.behind (closing : Char) (parts : List Text) : Text :=
  parts.flatMap (fun t => (',' : CodePoint) :: t) ++ [CodePoint.ofChar closing]

theorem GoJson.behind_cons (closing : Char) (t : Text) (parts : List Text) :
    GoJson.behind closing (t :: parts) =
      CodePoint.ofChar ',' :: (t ++ GoJson.behind closing parts) := by
  simp [GoJson.behind]

theorem GoJson.between_joined (opening closing : Char) (t : Text) (parts : List Text) :
    Text.between opening closing (Text.joined [','] (t :: parts)) =
      CodePoint.ofChar opening :: (t ++ GoJson.behind closing parts) := by
  induction parts generalizing t with
  | nil => simp [Text.between, Text.joined, GoJson.behind]
  | cons u parts ih =>
    have h := ih u
    simp only [Text.between, GoJson.behind, List.cons.injEq, true_and] at h ⊢
    simp [Text.joined, h]

theorem CodePoint.eq_of_val {c d : CodePoint} (h : c.val = d.val) : c = d := by
  cases c
  cases d
  simpa using h

theorem CodePoint.ofNat_val (c : CodePoint) : CodePoint.ofNat c.val = c := by
  simp [CodePoint.ofNat, c.isLt]

theorem Text.ofString_injective {s t : String} (h : Text.ofString s = Text.ofString t) : s = t := by
  refine String.toList_inj.mp ((List.map_inj_right ?_).mp h)
  intro c d hcd
  exact Char.toNat_inj.mp (congrArg CodePoint.val hcd)

theorem Value.eq_text_of_kind {v : Value} (h : v.kind = .text) : ∃ t, v = .text t := by
  cases v <;> simp_all [Value.kind]

theorem ofNat_eq_map (n : Nat) : Text.ofNat n = (Nat.toDigits 10 n).map CodePoint.ofChar := by
  rw [Text.ofNat, Text.ofString, Nat.toString_eq_repr, Nat.toList_repr]

theorem ofChar_isDigit {c : Char} (h : c.isDigit) : (c : CodePoint).isDigit := by
  simp only [CodePoint.isDigit, Bool.and_eq_true, decide_eq_true_eq]
  exact Char.isDigit_iff_toNat.mp h

theorem all_fixed {p : CodePoint → Bool} (h : ∀ n < 16, p (Hex.digit n)) (width n : Nat) :
    (Hex.fixed width n).all p := by
  induction width generalizing n with
  | zero => rfl
  | succ w ih => simp [Hex.fixed, ih, h _ (Nat.mod_lt n (by decide : 0 < 16))]

/-- What holds of digits and of the minus sign holds throughout an integer. -/
theorem all_ofInt {p : CodePoint → Bool} (hd : ∀ c : CodePoint, c.isDigit → p c)
    (hm : p (CodePoint.ofChar '-')) (n : Int) : (Text.ofInt n).all p := by
  have hn (m : Nat) : (Text.ofNat m).all p := by
    rw [ofNat_eq_map, List.all_map, List.all_eq_true]
    intro c hc
    exact hd c (ofChar_isDigit (Nat.isDigit_of_mem_toDigits (by decide) (by decide) hc))
  unfold Text.ofInt
  split
  · rw [List.all_cons, hm, hn]
    rfl
  · exact hn n.natAbs

/-! What a document holds, character by character -/

def CodePoint.isPlain (c : CodePoint) : Bool := 0x20 ≤ c.val && c.val < 0x7F

/-- Whether the string of a text passes a test at every character; other values always do. -/
def GoJson.passes (p : CodePoint → Bool) : Value → Bool
  | .text t => (t.flatMap GoJson.char).all p
  | _ => true

/-- A test that every printable ASCII character passes. -/
def HoldsOfPlain (p : CodePoint → Bool) : Prop := ∀ c : CodePoint, c.isPlain → p c

private theorem all_of_isPlain {p : CodePoint → Bool} (hp : HoldsOfPlain p) {t : Text}
    (h : t.all CodePoint.isPlain) : t.all p :=
  List.all_eq_true.mpr fun c hc => hp c (List.all_eq_true.mp h c hc)

private theorem of_isDigit {p : CodePoint → Bool} (hp : HoldsOfPlain p) {c : CodePoint}
    (h : c.isDigit) : p c := by
  refine hp c ?_
  simp only [CodePoint.isDigit, CodePoint.isPlain, Bool.and_eq_true, decide_eq_true_eq] at h ⊢
  omega

private theorem all_between {p : CodePoint → Bool} (hp : HoldsOfPlain p) {opening closing : Char}
    (ho : (opening : CodePoint).isPlain) (hc : (closing : CodePoint).isPlain) (t : Text) :
    (Text.between opening closing t).all p = t.all p := by
  simp [Text.between, hp _ ho, hp _ hc]

private theorem all_joined {p : CodePoint → Bool} (hp : HoldsOfPlain p) (parts : List Text) :
    (Text.joined [','] parts).all p = parts.all (List.all · p) := by
  have hcomma := hp (CodePoint.ofChar ',') (by decide)
  induction parts with
  | nil => rfl
  | cons t parts ih =>
    cases parts with
    | nil => simp [Text.joined]
    | cons u parts =>
      rw [List.all_cons, ← ih]
      simp [Text.joined, hcomma]

mutual

/-- Beyond printable ASCII a document holds only what the strings in it hold. -/
theorem all_write {p : CodePoint → Bool} (hp : HoldsOfPlain p) : ∀ v : Value,
    v.everywhere GoJson.hasForm → (GoJson.write v).all p = v.everywhere (GoJson.passes p)
  | .null => fun _ => all_of_isPlain hp (by decide)
  | .bool b => fun _ => by cases b <;> exact all_of_isPlain hp (by decide)
  | .int n => fun _ => all_ofInt (fun _ => of_isDigit hp) (hp _ (by decide)) n
  | .text t => fun _ => all_between hp (by decide) (by decide) _
  | .float _ | .bytes _ => fun _ => rfl
  | .array items => by
    intro h
    simp only [Value.everywhere, Bool.and_eq_true] at h
    rw [GoJson.write, all_between hp (by decide) (by decide), all_joined hp,
      all_writeItems hp items h.2]
    rfl
  | .tuple items => by
    intro h
    simp only [Value.everywhere, Bool.and_eq_true] at h
    rw [GoJson.write, all_between hp (by decide) (by decide), all_joined hp,
      all_writeItems hp items h.2]
    rfl
  | .object entries => by
    intro h
    simp only [Value.everywhere, Bool.and_eq_true] at h
    rw [GoJson.write, all_between hp (by decide) (by decide), all_joined hp,
      all_writeEntries hp entries h.1 h.2]
    rfl

theorem all_writeItems {p : CodePoint → Bool} (hp : HoldsOfPlain p) : ∀ items : List Value,
    Value.everywhereIn GoJson.hasForm items →
    (GoJson.writeItems items).all (List.all · p) = Value.everywhereIn (GoJson.passes p) items
  | [] => fun _ => rfl
  | v :: r => by
    intro h
    simp only [Value.everywhereIn, Bool.and_eq_true] at h
    rw [GoJson.writeItems, List.all_cons, all_write hp v h.1, all_writeItems hp r h.2,
      Value.everywhereIn]

theorem all_writeEntries {p : CodePoint → Bool} (hp : HoldsOfPlain p) :
    ∀ entries : List (Value × Value), entries.all (fun e => e.1.kind = .text) →
    Value.everywhereUnder GoJson.hasForm entries →
    (GoJson.writeEntries entries).all (List.all · p) =
      Value.everywhereUnder (GoJson.passes p) entries
  | [] => fun _ _ => rfl
  | (k, v) :: r => by
    intro hk h
    simp only [Value.everywhereUnder, List.all_cons, Bool.and_eq_true, decide_eq_true_eq] at hk h
    obtain ⟨k, rfl⟩ := Value.eq_text_of_kind hk.1
    have hs : (GoJson.key (.text k)).all p = (Value.text k).everywhere (GoJson.passes p) :=
      all_between hp (by decide) (by decide) _
    rw [GoJson.writeEntries, List.all_cons, List.all_append, List.all_cons, hs,
      hp (CodePoint.ofChar ':') (by decide), Bool.true_and, all_write hp v h.1.2,
      all_writeEntries hp r hk.2 h.2, Value.everywhereUnder]

end

/-- A character is written by a letter, by its number or as itself. -/
theorem char_cases (c : CodePoint) :
    (∃ d, (c, d) ∈ GoJson.shortEscapes ∧ GoJson.char c = [CodePoint.ofChar '\\', d]) ∨
    (GoJson.char c = GoJson.numericEscape c ∧ c.val < 0x2030) ∨
    (GoJson.char c = [c] ∧ c ≠ '"' ∧ c ≠ '\\' ∧ 0x20 ≤ c.val) := by
  by_cases hquote : c = '"'
  · subst hquote; exact .inl ⟨'"', by decide, by decide⟩
  by_cases hslash : c = '\\'
  · subst hslash; exact .inl ⟨'\\', by decide, by decide⟩
  by_cases hline : c = '\n'
  · subst hline; exact .inl ⟨'n', by decide, by decide⟩
  by_cases hreturn : c = '\r'
  · subst hreturn; exact .inl ⟨'r', by decide, by decide⟩
  by_cases htab : c = '\t'
  · subst htab; exact .inl ⟨'t', by decide, by decide⟩
  simp only [GoJson.char, hquote, hslash, hline, hreturn, htab, decide_false, Bool.or_false,
    Bool.false_eq_true, if_false]
  split
  · rename_i h
    refine .inr (.inl ⟨rfl, ?_⟩)
    simp only [Bool.or_eq_true, decide_eq_true_eq] at h
    rcases h with ((((h | rfl) | rfl) | rfl) | h) | h
    · omega
    · decide
    · decide
    · decide
    · omega
    · omega
  · rename_i h
    simp only [Bool.or_eq_true, decide_eq_true_eq, not_or] at h
    exact .inr (.inr ⟨rfl, hquote, hslash, by omega⟩)

private theorem all_numericEscape (c : CodePoint) :
    (GoJson.numericEscape c).all CodePoint.isPlain := by
  simp only [GoJson.numericEscape, List.all_cons, all_fixed (p := CodePoint.isPlain) (by decide)]
  decide

private theorem holdsOfPlain_intact : HoldsOfPlain (!·.isSurrogate) := by
  intro c h
  simp only [CodePoint.isPlain, Bool.and_eq_true, decide_eq_true_eq] at h
  simp only [CodePoint.isSurrogate, Bool.not_eq_true', Bool.and_eq_false_iff,
    decide_eq_false_iff_not]
  omega

/-- A document holds a surrogate exactly if a text or a key in the value does. -/
theorem hasSurrogate_write {v : Value} (h : v.everywhere GoJson.hasForm) :
    (GoJson.write v).hasSurrogate = !v.everywhere GoJson.isIntact := by
  have hchar (c : CodePoint) : (GoJson.char c).all (!·.isSurrogate) = !c.isSurrogate := by
    have hshort : ∀ e ∈ GoJson.shortEscapes,
        (GoJson.char e.1).all (!·.isSurrogate) = !e.1.isSurrogate := by decide
    rcases char_cases c with ⟨d, hd, -⟩ | ⟨hc, hl⟩ | ⟨hc, -⟩
    · exact hshort _ hd
    · rw [hc, all_of_isPlain holdsOfPlain_intact (all_numericEscape c), eq_comm,
        Bool.not_eq_true', CodePoint.isSurrogate, Bool.and_eq_false_iff, decide_eq_false_iff_not]
      exact .inl (by omega)
    · simp [hc]
  have hpass : GoJson.passes (!·.isSurrogate) = GoJson.isIntact := by
    funext w
    cases w <;> simp [GoJson.passes, GoJson.isIntact, hchar, Text.hasSurrogate, List.all_flatMap,
      List.not_any_eq_all_not]
  have hw := all_write holdsOfPlain_intact v h
  rw [hpass] at hw
  rw [← hw, ← List.not_any_eq_all_not, Bool.not_not]
  rfl

/-- No control character stands in a document. -/
theorem le_of_mem_write {v : Value} (h : v.everywhere GoJson.hasForm) {c : CodePoint}
    (hc : c ∈ GoJson.write v) : 0x20 ≤ c.val := by
  have hp : HoldsOfPlain (0x20 ≤ ·.val) := by
    intro d hd
    simp only [CodePoint.isPlain, Bool.and_eq_true] at hd
    exact hd.1
  have hchar (d : CodePoint) : (GoJson.char d).all (0x20 ≤ ·.val) := by
    have hshort : ∀ e ∈ GoJson.shortEscapes, (GoJson.char e.1).all (0x20 ≤ ·.val) := by decide
    rcases char_cases d with ⟨_, hd, -⟩ | ⟨hd, -⟩ | ⟨hd, -, -, hl⟩
    · exact hshort _ hd
    · rw [hd]
      exact all_of_isPlain hp (all_numericEscape d)
    · simpa [hd] using hl
  have hpass (w : Value) : GoJson.passes (0x20 ≤ ·.val) w := by
    cases w <;> simp [GoJson.passes, List.all_flatMap, hchar]
  have hall := all_write hp v h
  rw [Value.everywhere_of_forall hpass v] at hall
  simpa using List.all_eq_true.mp hall c hc

end RelayClient
