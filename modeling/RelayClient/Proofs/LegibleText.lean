import RelayClient.Response

/-!
# Bytes that can be read as text

A rule for multi-byte text that leaves no long piece unfinished and knows every shift reads any bytes.
All East Asian sets without escape sequences have such rules. With the sets that need a mark, that
take ASCII digits only or that read no text at all this settles which bytes have a text in which set.
-/
namespace RelayClient

namespace Ahead

variable {σ : Type}

/-- What comes next out of so many bytes lets the reading go on or end. -/
def Proceeds (length : Nat) : Ahead σ → Prop
  | .read .. | .malformed _ => True
  | .unfinished => length ≤ longestEnding
  | .lost => False

/-- A rule by which the reading always goes on or ends. -/
def Reads (ahead : σ → Bytes → Ahead σ) : Prop :=
  ∀ s bytes, (ahead s bytes).Proceeds bytes.length

theorem exists_items {ahead : σ → Bytes → Ahead σ} (h : Reads ahead) (fuel : Nat) (s : σ)
    (bytes : Bytes) : ∃ t, items ahead fuel s bytes = .ok t := by
  induction fuel generalizing s bytes with
  | zero => exact ⟨[], rfl⟩
  | succ fuel ih =>
    cases bytes with
    | nil => exact ⟨[], rfl⟩
    | cons b r =>
      have hnext := h s (b :: r)
      cases hahead : ahead s (b :: r) with
      | read t size s' =>
        obtain ⟨u, hu⟩ := ih s' ((b :: r).drop size)
        exact ⟨ReadText.ofText t ++ u, by simp only [items, hahead, hu]; rfl⟩
      | malformed size =>
        obtain ⟨u, hu⟩ := ih s ((b :: r).drop size)
        exact ⟨none :: u, by simp only [items, hahead, hu]; rfl⟩
      | unfinished =>
        rw [hahead] at hnext
        exact ⟨[none], by simp only [items, hahead, if_neg (Nat.not_lt.mpr hnext)]⟩
      | lost =>
        rw [hahead] at hnext
        exact hnext.elim

theorem exists_text {ahead : σ → Bytes → Ahead σ} (h : Reads ahead) (start : σ) (bytes : Bytes) :
    ∃ t, text ahead start bytes = .ok t := exists_items h _ _ _

@[simp] theorem proceeds_read (n : Nat) (t : Text) (size : Nat) (s : σ) :
    (Ahead.read t size s).Proceeds n := trivial

@[simp] theorem proceeds_malformed (n size : Nat) : (Ahead.malformed (σ := σ) size).Proceeds n :=
  trivial

@[simp] theorem proceeds_unfinished (n : Nat) :
    (Ahead.unfinished (σ := σ)).Proceeds n ↔ n ≤ longestEnding := Iff.rfl

@[simp] theorem proceeds_ofCell (n size : Nat) (c : Option CodePoint) :
    (ofCell size c).Proceeds n := by
  cases c <;> trivial

@[simp] theorem proceeds_single (n : Nat) (b : UInt8) : (single b).Proceeds n := trivial

end Ahead

open Ahead (Proceeds longestEnding proceeds_unfinished proceeds_ofCell proceeds_single)

private theorem length_le_one {r : Bytes} (h : ∀ b c rest, r = b :: c :: rest → False) :
    r.length ≤ 1 := by
  match r, h with
  | [], _ => exact Nat.zero_le _
  | [_], _ => exact Nat.le_refl _
  | b :: c :: rest, h => exact (h b c rest rfl).elim

namespace Japanese

@[simp] theorem proceeds_ofText (n size : Nat) (t : Option Text) : (ofText size t).Proceeds n := by
  cases t <;> trivial

theorem proceeds_ofFirstPlane (n : Nat) (e : JisX0213.Edition) (row column : Nat)
    (t : Option Text) : (ofFirstPlane e row column t).Proceeds n := by
  unfold ofFirstPlane
  split
  · trivial
  · exact proceeds_ofText ..

/-- What is left unfinished in extended code has two bytes at most. -/
theorem proceeds_extended {main : Nat → Nat → Ahead Unit} {supplement : Nat → Nat → Option Text}
    (h : ∀ n row column, (main row column).Proceeds n) (bytes : Bytes) :
    (extended main supplement bytes).Proceeds bytes.length := by
  unfold extended
  split
  · exact Nat.zero_le _
  split
  · trivial
  split
  · exact (by decide : 1 ≤ longestEnding)
  · simp only [proceeds_ofCell]
  · exact proceeds_ofText ..
  · rename_i hshort
    have hlength := length_le_one hshort
    simp only [proceeds_unfinished, List.length_cons, longestEnding]
    omega
  · exact h ..

theorem proceeds_shifted {one : UInt8 → Option CodePoint} {two : Nat → Nat → Ahead Unit}
    (h : ∀ n lead trail, (two lead trail).Proceeds n) (bytes : Bytes) :
    (shifted one two bytes).Proceeds bytes.length := by
  unfold shifted
  split
  · exact Nat.zero_le _
  split
  · trivial
  split
  · trivial
  split
  · exact (by decide : 1 ≤ longestEnding)
  · exact h ..

end Japanese

namespace Korean

theorem proceeds_euc (bytes : Bytes) : (euc bytes).Proceeds bytes.length := by
  unfold euc
  split
  · exact Nat.zero_le _
  split
  · trivial
  split
  · exact (by decide : 1 ≤ longestEnding)
  · split
    · simp only [proceeds_unfinished, List.length_cons, longestEnding]
      omega
    · simp only [proceeds_ofCell]
  · simp only [proceeds_ofCell]

theorem proceeds_codePage949 (bytes : Bytes) : (codePage949 bytes).Proceeds bytes.length := by
  unfold codePage949
  split
  · exact Nat.zero_le _
  split
  · trivial
  split
  · exact (by decide : 1 ≤ longestEnding)
  · simp only [proceeds_ofCell]

theorem proceeds_johab (bytes : Bytes) : (johab bytes).Proceeds bytes.length := by
  unfold johab
  split
  · exact Nat.zero_le _
  split
  · trivial
  split
  · exact (by decide : 1 ≤ longestEnding)
  split
  · simp only [proceeds_ofCell]
  · simp only [proceeds_ofCell]

end Korean

namespace Chinese

theorem proceeds_double (cell? : Nat → Nat → Option CodePoint) (bytes : Bytes) :
    (double cell? bytes).Proceeds bytes.length := by
  unfold double
  split
  · exact Nat.zero_le _
  split
  · trivial
  split
  · exact (by decide : 1 ≤ longestEnding)
  · simp only [proceeds_ofCell]

theorem proceeds_gb18030 (bytes : Bytes) : (gb18030 bytes).Proceeds bytes.length := by
  unfold gb18030
  split
  · exact Nat.zero_le _
  split
  · trivial
  split
  · exact (by decide : 1 ≤ longestEnding)
  split
  · split
    · simp only [proceeds_ofCell]
    · rename_i hshort
      have hlength := length_le_one hshort
      simp only [proceeds_unfinished, List.length_cons, longestEnding]
      omega
  · simp only [proceeds_ofCell]

theorem proceeds_big5HongKong (bytes : Bytes) : (big5HongKong bytes).Proceeds bytes.length := by
  unfold big5HongKong
  split
  · split
    · trivial
    · dsimp only
      split
      · trivial
      · trivial
      · trivial
  · split
    · trivial
    · exact (by decide : 1 ≤ longestEnding)
  · exact Nat.zero_le _

theorem proceeds_hz (national : Bool) (bytes : Bytes) :
    (hz national bytes).Proceeds bytes.length := by
  unfold hz
  split
  · exact Nat.zero_le _
  · split
    · exact (by decide : 1 ≤ longestEnding)
    · trivial
    · trivial
    · trivial
    · trivial
    · trivial
  · split
    · trivial
    split
    · trivial
    split
    · exact (by decide : 1 ≤ longestEnding)
    · split
      · trivial
      · trivial

end Chinese

/-- None of the East Asian sets is ever at a loss. -/
theorem MultiByteSet.reads (t : MultiByteSet) : Ahead.Reads fun (_ : Unit) => t.ahead := by
  intro _ bytes
  cases t with
  | eucJapanese =>
    rw [ahead, Japanese.euc]
    exact Japanese.proceeds_extended (fun n row column => by simp only [proceeds_ofCell]) bytes
  | eucJis e =>
    rw [ahead, Japanese.eucJis]
    exact Japanese.proceeds_extended (fun n row column => Japanese.proceeds_ofFirstPlane ..) bytes
  | shiftJis =>
    rw [ahead, Japanese.shiftJis]
    exact Japanese.proceeds_shifted (fun n lead trail => by simp only [proceeds_ofCell]) bytes
  | shiftJis2004 e =>
    rw [ahead, Japanese.shiftJis2004]
    refine Japanese.proceeds_shifted (fun n lead trail => ?_) bytes
    split
    · trivial
    split
    · exact Japanese.proceeds_ofFirstPlane ..
    · simp only [Japanese.proceeds_ofText]
  | codePage932 =>
    rw [ahead, Japanese.codePage932]
    exact Japanese.proceeds_shifted (fun n lead trail => by simp only [proceeds_ofCell]) bytes
  | eucKorean => exact Korean.proceeds_euc bytes
  | codePage949 => exact Korean.proceeds_codePage949 bytes
  | johab => exact Korean.proceeds_johab bytes
  | gb2312 =>
    rw [ahead, Chinese.gb2312]
    exact Chinese.proceeds_double _ bytes
  | gbk =>
    rw [ahead, Chinese.gbk]
    exact Chinese.proceeds_double _ bytes
  | gb18030 => exact Chinese.proceeds_gb18030 bytes
  | big5 =>
    rw [ahead, Chinese.big5]
    exact Chinese.proceeds_double _ bytes
  | codePage950 =>
    rw [ahead, Chinese.codePage950]
    exact Chinese.proceeds_double _ bytes
  | big5HongKong => exact Chinese.proceeds_big5HongKong bytes

namespace Charset

/-- Bytes that have a text in a set: where there has to be a mark it is there, digits are ASCII, an
escape sequence at the end is not left unfinished at length, and a single shift is for a set. -/
def Reads (s : Charset) (bytes : Bytes) : Prop :=
  match s with
  | utf16 | utf32 => s.lacksMark bytes = none
  | punycode => ∀ b ∈ (Punycode.split bytes).2, b < 0x80
  | iso2022 t => ∃ text, Ahead.text t.ahead {} bytes = .ok text
  | hostName | undefined | betweenTexts | betweenBytes => False
  | _ => True

variable {s : Charset} {bytes : Bytes}

/-- In most sets the text is that of the items. -/
theorem exists_decode_iff_items (hs : s ≠ hostName) (hmark : s.lacksMark bytes = none) :
    (∃ t, s.decode bytes = .ok t) ↔ ∃ t, s.items bytes = .ok t := by
  have hdecode : s.decode bytes =
      ((s.items bytes).mapError .undecodable).map ReadText.replaced := by
    unfold decode
    split
    · exact absurd rfl hs
    · rename_i hlacks
      cases hmark.symm.trans hlacks
    · rfl
  rw [hdecode]
  cases s.items bytes with
  | ok t => exact ⟨fun _ => ⟨t, rfl⟩, fun _ => ⟨_, rfl⟩⟩
  | error u => exact ⟨nofun, nofun⟩

/-- Without the mark that a set needs there is no text. -/
theorem decode_of_lacksMark (hs : s ≠ hostName) {encoding : String}
    (hmark : s.lacksMark bytes = some encoding) :
    s.decode bytes = .error (.undecodable (.noByteOrderMark encoding)) := by
  unfold decode
  split
  · exact absurd rfl hs
  · rename_i hlacks
    cases hmark.symm.trans hlacks
    rfl
  · rename_i hlacks
    cases hmark.symm.trans hlacks

theorem exists_punycode_iff : (∃ t, Prod.fst <$> Punycode.read bytes = .ok t) ↔
    ∀ b ∈ (Punycode.split bytes).2, b < 0x80 := by
  rw [Punycode.read]
  rcases Punycode.split bytes with ⟨base, digits⟩
  have hnone : digits.findIdx? (· ≥ 0x80) = none ↔ ∀ b ∈ digits, b < 0x80 := by
    simp [List.findIdx?_eq_none_iff]
  dsimp only
  rw [← hnone]
  cases digits.findIdx? (· ≥ 0x80) with
  | none => exact ⟨fun _ => rfl, fun _ => ⟨_, rfl⟩⟩
  | some i => simp [Functor.map, Except.map]

/-- Which bytes have a text in which set. -/
theorem exists_decode_iff (s : Charset) (bytes : Bytes) :
    (∃ t, s.decode bytes = .ok t) ↔ s.Reads bytes := by
  have hmarked (hs : s ≠ hostName) (hitems : ∃ t, s.items bytes = .ok t) :
      (∃ t, s.decode bytes = .ok t) ↔ s.lacksMark bytes = none := by
    cases hmark : s.lacksMark bytes with
    | none => simp [exists_decode_iff_items hs hmark, hitems]
    | some encoding => simp [decode_of_lacksMark hs hmark]
  have hany (hs : s ≠ hostName) (hmark : s.lacksMark bytes = none)
      (hitems : ∃ t, s.items bytes = .ok t) (hreads : s.Reads bytes) :
      (∃ t, s.decode bytes = .ok t) ↔ s.Reads bytes :=
    iff_of_true ((exists_decode_iff_items hs hmark).mpr hitems) hreads
  cases s with
  | utf16 | utf32 => exact hmarked nofun ⟨_, rfl⟩
  | punycode => exact (exists_decode_iff_items (s := punycode) nofun rfl).trans exists_punycode_iff
  | iso2022 t => exact exists_decode_iff_items (s := iso2022 t) nofun rfl
  | hostName | undefined | betweenTexts | betweenBytes => exact ⟨nofun, nofun⟩
  | multiByte t => exact hany nofun rfl (Ahead.exists_text t.reads () bytes) trivial
  | hz => exact hany nofun rfl (Ahead.exists_text Chinese.proceeds_hz false bytes) trivial
  | ascii | latin1 | utf7 | utf8 | utf8Signature => exact hany nofun rfl ⟨_, rfl⟩ trivial
  | utf16In order | utf32In order => exact hany nofun rfl ⟨_, rfl⟩ trivial
  | escaped style => exact hany nofun rfl ⟨_, rfl⟩ trivial
  | singleByte t => exact hany nofun rfl ⟨_, rfl⟩ trivial

end Charset

namespace Response

/-- The body can be read as text: it is empty, or it has a text in the set that the media type asks
for. -/
def IsLegible (r : Response) : Prop :=
  r.body = [] ∨ ∃ s, Charset.ofMediaType r.mediaType = .ok s ∧ s.Reads r.body

theorem exists_text_iff (r : Response) : (∃ t, r.text = .ok t) ↔ r.IsLegible := by
  unfold text IsLegible
  split
  · rename_i hempty
    simp [List.isEmpty_iff.mp hempty]
  · rename_i hbody
    have hne : r.body ≠ [] := fun h => hbody (List.isEmpty_iff.mpr h)
    cases hs : Charset.ofMediaType r.mediaType with
    | error f => simp [hne, bind, Except.bind]
    | ok s => simpa [hne, bind, Except.bind] using s.exists_decode_iff r.body

end Response
end RelayClient
