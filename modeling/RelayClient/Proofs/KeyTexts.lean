import RelayClient.KeyReading
import RelayClient.Proofs.MessageOrders
import RelayClient.Proofs.SignatureVerdicts

/-!
# Which texts are keys

A text is a key exactly if it writes 32 bytes, or a point of secp256k1 in 33, in hexadecimal digits.
The key is written as the same text in small letters, and two texts are one key if they differ in the
case of letters only. All other texts are refused as wrong values, whichever step finds them out.
-/
namespace RelayClient

namespace KeyReading

variable {t : Text}

/-- A handler that takes all faults of some work reports its own for each of them. -/
theorem reporting_eq {α : Type} {caught : List KeyCategory} {instead : KeyFault}
    {work : Except KeyFault α} (h : ∀ f, work = .error f → f.isAmong caught) :
    reporting caught instead work = work.mapError fun _ => instead := by
  cases work with
  | error f => simp [reporting, Except.mapError, h f rfl]
  | ok a => rfl

theorem isAmong_of_readSignature_text {f : CheckFault}
    (h : SignatureCheck.readSignature (.text t) = .error f) :
    (KeyFault.digits f).isAmong [.plain .hexadecimal, .plain .value] := by
  simp only [SignatureCheck.readSignature, SignatureCheck.readDigits] at h
  split at h
  · split at h
    · cases h
      decide
    · split at h
      · cases h
      · cases h
        decide
  · cases h
    decide

/-- Whatever is wrong with the digits of a text, it is reported as malformed. -/
theorem decode_eq (v : Value) : decode v = (decodeHex v).mapError .reported := by
  cases v with
  | text t =>
    have htaken : ∀ f, (SignatureCheck.readSignature (.text t)).mapError KeyFault.digits = .error f →
        f.isAmong [.plain .hexadecimal, .plain .value] := by
      intro f hf
      obtain ⟨g, hread, rfl⟩ := mapError_eq_error_iff.mp hf
      exact isAmong_of_readSignature_text hread
    rw [decode, reporting_eq htaken]
    cases hread : SignatureCheck.readSignature (.text t) with
    | ok b =>
      obtain ⟨_, ⟨⟩, hb⟩ := SignatureCheck.readSignature_eq_ok_iff.mp hread
      simp [decodeHex, hb, Except.mapError]
    | error f =>
      have hnone : Hex.decode? t = none := by
        rw [Option.eq_none_iff_forall_ne_some]
        intro b hb
        cases hread.symm.trans (SignatureCheck.readSignature_eq_ok_iff.mpr ⟨t, rfl, hb⟩)
      simp [decodeHex, hnone, Except.mapError]
  | _ => rfl

/-- A malformed point does not get past its handler, and no length does for ed25519. -/
theorem ofBytes_eq (bytes : Bytes) : ofBytes bytes = (PublicKey.ofBytes bytes).mapError .reported := by
  rw [ofBytes, PublicKey.ofBytes]
  split
  · rename_i hlength
    rw [checkEd25519, if_pos hlength]
    rfl
  · split
    · rw [checkSecp256k1]
      split
      · rfl
      · rfl
    · rfl

theorem parse_eq (v : Value) : parse v = (PublicKey.parse v).mapError .reported := by
  rw [parse, PublicKey.parse, decode_eq]
  cases decodeHex v with
  | error f => rfl
  | ok b => exact ofBytes_eq b

end KeyReading

namespace PublicKey

variable {k l : PublicKey} {s t : Text} {f : Fault}

/-- Why a text is no key. -/
inductive Refused (t : Text) : Fault → Prop where
  | malformed : ¬ Hex.IsHex t → Refused t (.hexMalformed t)
  | length (bytes : Bytes) : Hex.decode? t = some bytes → bytes.length ≠ 32 →
      bytes.length ≠ 33 → Refused t (.publicKeyLength bytes.length)
  | point (bytes : Bytes) : Hex.decode? t = some bytes → bytes.length = 33 →
      ¬ Secp256k1.IsPoint bytes → Refused t .secp256k1Key

theorem Refused.category_eq (h : Refused t f) : f.category = .value := by
  cases h with
  | malformed | length | point => rfl

theorem parse_text_eq_error_iff : parse (.text t) = .error f ↔ Refused t f := by
  simp only [parse, bind_eq_error_iff, decodeHex_eq_error_iff, decodeHex_eq_ok_iff,
    ofBytes_eq_error_iff]
  constructor
  · rintro ((⟨hkind, -⟩ | ⟨_, ⟨⟩, ht, rfl⟩) | ⟨bytes, ⟨_, ⟨⟩, ht⟩, hfault⟩)
    · exact absurd rfl hkind
    · exact .malformed ht
    · obtain ⟨hed, hsecp, rfl⟩ | ⟨hsecp, hpoint, rfl⟩ := hfault
      · exact .length bytes ht hed hsecp
      · exact .point bytes ht hsecp hpoint
  · intro h
    cases h with
    | malformed ht => exact .inl (.inr ⟨t, rfl, ht, rfl⟩)
    | length bytes ht hed hsecp => exact .inr ⟨bytes, ⟨t, rfl, ht⟩, .inl ⟨hed, hsecp, rfl⟩⟩
    | point bytes ht hsecp hpoint => exact .inr ⟨bytes, ⟨t, rfl, ht⟩, .inr ⟨hsecp, hpoint, rfl⟩⟩

theorem category_of_parse {f : KeyFault} (h : KeyReading.parse (.text t) = .error f) :
    f.category = .plain .value := by
  rw [KeyReading.parse_eq] at h
  obtain ⟨g, hg, rfl⟩ := mapError_eq_error_iff.mp h
  exact congrArg KeyCategory.plain (parse_text_eq_error_iff.mp hg).category_eq

theorem isChecked_iff : k.IsChecked ↔ k.scheme = .ed25519 ∧ k.bytes.length = 32 ∨
    k.scheme = .secp256k1 ∧ k.bytes.length = 33 ∧ Secp256k1.IsPoint k.bytes := by
  obtain ⟨scheme, bytes⟩ := k
  cases scheme with
  | ed25519 => simp [IsChecked]
  | secp256k1 =>
    have hlength : Secp256k1.IsPoint bytes → bytes.length = 33 := Secp256k1.IsPoint.length_eq
    simpa [IsChecked] using hlength

theorem eq_of_bytes_eq (hk : k.IsChecked) (hl : l.IsChecked) (h : k.bytes = l.bytes) : k = l := by
  have hread : (.ok k : Except Fault PublicKey) = .ok l :=
    (ofBytes_eq_ok_iff.mpr ⟨h, hk⟩).symm.trans (ofBytes_eq_ok_iff.mpr ⟨rfl, hl⟩)
  exact Except.ok.inj hread

theorem eq_iff_of_parse (hk : parse (.text t) = .ok k) (hl : parse (.text s) = .ok l) :
    k = l ↔ t.lower = s.lower := by
  have hkt := hex_of_parse hk
  have hls := hex_of_parse hl
  constructor
  · rintro rfl
    rw [← hkt, hls]
  · intro hlower
    obtain ⟨_, -, -, hkchecked⟩ := parse_eq_ok_iff.mp hk
    obtain ⟨_, -, -, hlchecked⟩ := parse_eq_ok_iff.mp hl
    have hhex : k.hex = l.hex := by rw [hkt, hls, hlower]
    exact eq_of_bytes_eq hkchecked hlchecked (Hex.encode_injective hhex)

/-- Bytes are read from exactly the texts of an even number of hexadecimal digits, and are written as
the same text in small letters. They are a key of ed25519 if there are 32 of them, and one of secp256k1
if they are a point in 33. A key is written as its text in small letters, is read again from it, and is
the same for two texts exactly if these differ in case only. A text that is refused is refused for the
first thing that is wrong with it, which is always a wrong value: no other fault gets past the handlers
of the steps. -/
theorem parse_and_write (t : Text) :
    ((∃ b, decodeHex (.text t) = .ok b) ↔ Hex.IsHex t) ∧
    (∀ b, decodeHex (.text t) = .ok b → Hex.encode b = t.lower) ∧
    (∀ b, decodeHex (.text (Hex.encode b)) = .ok b) ∧
    (∀ f, decodeHex (.text t) = .error f → f = .hexMalformed t ∧ f.category = .value) ∧
    (∀ k, parse (.text t) = .ok k ↔ decodeHex (.text t) = .ok k.bytes ∧
      (k.scheme = .ed25519 ∧ k.bytes.length = 32 ∨
        k.scheme = .secp256k1 ∧ k.bytes.length = 33 ∧ Secp256k1.IsPoint k.bytes)) ∧
    (∀ k, parse (.text t) = .ok k → k.hex = t.lower ∧ parse (.text k.hex) = .ok k ∧
      ∀ s l, parse (.text s) = .ok l → (k = l ↔ t.lower = s.lower)) ∧
    (∀ f, parse (.text t) = .error f ↔ Refused t f) ∧
    (∀ f, Refused t f → f.category = .value) ∧
    KeyReading.decode (.text t) = (decodeHex (.text t)).mapError .reported ∧
    KeyReading.parse (.text t) = (parse (.text t)).mapError .reported ∧
    ∀ f, KeyReading.parse (.text t) = .error f → f.category = .plain .value := by
  have hdecode (b : Bytes) : decodeHex (.text t) = .ok b ↔ Hex.decode? t = some b := by
    simp only [decodeHex_eq_ok_iff, Value.text.injEq, exists_eq_left']
  refine ⟨?_, ?_, decodeHex_hexValue, ?_, ?_, ?_, fun f => parse_text_eq_error_iff,
    fun f => Refused.category_eq, KeyReading.decode_eq _, KeyReading.parse_eq _,
    fun f => category_of_parse⟩
  · simp only [hdecode, Hex.exists_decode?_iff]
  · intro b hb
    exact (Hex.decode?_eq_some_iff.mp ((hdecode b).mp hb)).2.symm
  · intro f hf
    obtain ⟨hkind, -⟩ | ⟨_, ⟨⟩, -, rfl⟩ := decodeHex_eq_error_iff.mp hf
    · exact absurd rfl hkind
    · exact ⟨rfl, rfl⟩
  · intro k
    rw [parse_eq_ok_iff, hdecode, isChecked_iff]
    simp only [Value.text.injEq, exists_eq_left']
  · intro k hk
    exact ⟨hex_of_parse hk, parse_hex hk, fun s l hl => eq_iff_of_parse hk hl⟩

/-- The base point of secp256k1 in capital letters; and digits behind a prefix. -/
theorem parse_and_write_base_point :
    let t : Text := "0279BE667EF9DCBBAC55A06295CE870B07029BFCDB2DCE28D959F2815B16F81798"
    let k : PublicKey := ⟨.secp256k1, [0x02,
      0x79, 0xBE, 0x66, 0x7E, 0xF9, 0xDC, 0xBB, 0xAC, 0x55, 0xA0, 0x62, 0x95, 0xCE, 0x87, 0x0B, 0x07,
      0x02, 0x9B, 0xFC, 0xDB, 0x2D, 0xCE, 0x28, 0xD9, 0x59, 0xF2, 0x81, 0x5B, 0x16, 0xF8, 0x17, 0x98]⟩
    parse (.text t) = .ok k ∧ k.hex = t.lower ∧ parse (.text k.hex) = .ok k ∧
      parse (.text (Text.ofString "0x12")) = .error (.hexMalformed (Text.ofString "0x12")) := by
  intro t k
  have hpoint : Secp256k1.IsPoint k.bytes :=
    (Secp256k1.isCompressedPoint_iff k.bytes).mp (by decide +kernel)
  obtain ⟨-, -, -, -, haccepts, hwrites, -⟩ := parse_and_write t
  have hparse : parse (.text t) = .ok k := (haccepts k).mpr
    ⟨decodeHex_eq_ok_iff.mpr ⟨t, rfl, by decide⟩, .inr ⟨rfl, rfl, hpoint⟩⟩
  obtain ⟨hhex, hagain, -⟩ := hwrites k hparse
  obtain ⟨-, -, -, -, -, -, hrefuses, -⟩ := parse_and_write (Text.ofString "0x12")
  exact ⟨hparse, hhex, hagain, (hrefuses _).mpr (.malformed (by decide))⟩

end PublicKey
end RelayClient
