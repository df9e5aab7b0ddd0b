import RelayClient.SignatureCheck
import RelayClient.Proofs.HexDigits
import RelayClient.Proofs.Outcomes
import RelayClient.Proofs.PrivateKeys
import RelayClient.Proofs.ServicerCheck
import RelayClient.Proofs.SigningRound

/-!
# Which signatures are valid

The check of a signature comes to an answer whatever it is given: each step fails only with faults
that the handler around it takes. The answer is positive for well-formed keys and signatures that fit.
-/
namespace RelayClient

/-- The characters of a text, or of bytes, which stand for one character each. -/
def Value.characters? : Value → Option Text
  | text t => some t
  | bytes b => some (b.map fun x => CodePoint.ofNat x.toNat)
  | _ => none

namespace SignatureCheck

variable {v key signature : Value} {t : Text} {b k : Bytes} {f : CheckFault}

/-- If all faults are taken, there is an answer, which is positive only if nothing fails. -/
theorem exists_handling {α : Type} {caught : List Category} {work : Except CheckFault α}
    (accepts : α → Bool) (h : ∀ f, work = .error f → f.isAmong caught) :
    ∃ valid, handling caught false work (fun a => .ok (accepts a)) = .ok valid ∧
      (valid = true ↔ ∃ a, work = .ok a ∧ accepts a = true) := by
  cases work with
  | error f => exact ⟨false, if_pos (h f rfl), by simp⟩
  | ok a => exact ⟨accepts a, rfl, by simp⟩

theorem readKey_eq_ok_iff : readKey v = .ok k ↔
    ∃ s, v = .text s ∧ Hex.decode? s = some k ∧ k.length = 32 := by
  rw [readKey]
  cases hd : decodeHex v with
  | error f =>
    refine iff_of_false nofun ?_
    rintro ⟨s, rfl, hs, -⟩
    rw [decodeHex_eq_ok_iff.mpr ⟨s, rfl, hs⟩] at hd
    cases hd
  | ok bytes =>
    obtain ⟨s, rfl, hs⟩ := decodeHex_eq_ok_iff.mp hd
    dsimp only
    split <;> simp_all <;> grind

theorem isAmong_of_readKey (h : readKey v = .error f) :
    f.isAmong [.cryptography, .type, .value, .hexadecimal] := by
  unfold readKey at h
  split at h
  · split at h
    · cases h
    · cases h
      decide
  · rename_i g hg
    cases h
    obtain ⟨-, rfl⟩ | ⟨t, -, -, rfl⟩ := decodeHex_eq_error_iff.mp hg
    · decide
    · rfl

theorem readDigits_eq_ok_iff : readDigits t = .ok b ↔ Hex.decode? t = some b := by
  unfold readDigits
  split
  · rename_i hodd
    refine iff_of_false nofun fun h => ?_
    have heven := (Hex.decode?_eq_some_iff.mp h).1.even
    omega
  · cases Hex.decode? t <;> simp

theorem isAmong_of_readDigits (h : readDigits t = .error f) :
    f.isAmong [.cryptography, .type, .value, .hexadecimal] := by
  unfold readDigits at h
  split at h
  · cases h
    decide
  · split at h
    · cases h
    · cases h
      decide

theorem readSignature_eq_ok_iff :
    readSignature v = .ok b ↔ ∃ t, v.characters? = some t ∧ Hex.decode? t = some b := by
  cases v with
  | text t =>
    simp only [Value.characters?, Option.some.injEq, exists_eq_left', readSignature]
    split
    · exact readDigits_eq_ok_iff
    · rename_i hascii
      refine ⟨fun h => absurd h (by simp), fun h => ?_⟩
      refine absurd (List.all_eq_true.mpr fun c hc => ?_) hascii
      have hdigit := (Hex.decode?_eq_some_iff.mp h).1.digits c hc
      simp only [CodePoint.isHexDigit, Bool.or_eq_true, Bool.and_eq_true, decide_eq_true_eq] at hdigit
      rw [decide_eq_true_eq]
      omega
  | bytes bytes =>
    simp only [Value.characters?, Option.some.injEq, exists_eq_left', readSignature]
    exact readDigits_eq_ok_iff
  | _ => simp [Value.characters?, readSignature]

theorem isAmong_of_readSignature (h : readSignature v = .error f) :
    f.isAmong [.cryptography, .type, .value, .hexadecimal] := by
  cases v with
  | text t =>
    rw [readSignature] at h
    split at h
    · exact isAmong_of_readDigits h
    · cases h
      decide
  | bytes bytes => exact isAmong_of_readDigits h
  | _ =>
    cases h
    rfl

theorem isAmong_of_material
    (h : (do return (← readKey key, ← readSignature signature)) = .error f) :
    f.isAmong [.cryptography, .type, .value, .hexadecimal] := by
  obtain hkey | ⟨k, -, h⟩ := bind_eq_error_iff.mp h
  · exact isAmong_of_readKey hkey
  · obtain hsignature | ⟨b, -, h⟩ := bind_eq_error_iff.mp h
    · exact isAmong_of_readSignature hsignature
    · cases h

theorem material_eq_ok_iff {m : Bytes × Bytes} :
    (do return (← readKey key, ← readSignature signature)) = .ok m ↔
      readKey key = .ok m.1 ∧ readSignature signature = .ok m.2 := by
  obtain ⟨k, b⟩ := m
  simp only [bind_eq_ok_iff, pure_eq_ok_iff, Prod.mk.injEq]
  grind

/-- A wrong length and a forgery are both negative answers. -/
theorem handling_verify (k message b : Bytes) :
    handling [.forgery, .cryptography, .value] false (verify k message b) (fun _ => .ok true) =
      .ok (decide (b.length = 64) && Ed25519.verify k message b) := by
  unfold verify
  split
  · rename_i hlength
    rw [decide_eq_false hlength]
    rfl
  · rename_i hlength
    rw [decide_eq_true (not_not.mp hlength), Bool.true_and]
    cases Ed25519.verify k message b <;> rfl

end SignatureCheck

open SignatureCheck

variable {key signature : Value} {message : Bytes}

/-- A key of 64 hexadecimal digits and a signature of 128 that is valid for a message. -/
structure IsSigned (key : Value) (message : Bytes) (signature : Value) (s t : Text) : Prop where
  key_eq : key = .text s
  key_length : s.length = 64
  key_digits : ∀ c ∈ s, c.isHexDigit
  signature_eq : signature.characters? = some t
  signature_length : t.length = 128
  signature_digits : ∀ c ∈ t, c.isHexDigit
  valid : ∃ k b, Hex.decode? s = some k ∧ Hex.decode? t = some b ∧ Ed25519.verify k message b

theorem isSigned_iff {s t : Text} : IsSigned key message signature s t ↔
    ∃ k b, (key = .text s ∧ Hex.decode? s = some k ∧ k.length = 32) ∧
      (signature.characters? = some t ∧ Hex.decode? t = some b) ∧
      b.length = 64 ∧ Ed25519.verify k message b := by
  constructor
  · rintro ⟨hkey, hs, -, hsignature, ht, -, k, b, hk, hb, hverify⟩
    have hkeyLength := Hex.length_of_decode? hk
    have hlength := Hex.length_of_decode? hb
    exact ⟨k, b, ⟨hkey, hk, by omega⟩, ⟨hsignature, hb⟩, by omega, hverify⟩
  · rintro ⟨k, b, ⟨hkey, hk, hs⟩, ⟨hsignature, hb⟩, ht, hverify⟩
    have hkeyLength := Hex.length_of_decode? hk
    have hlength := Hex.length_of_decode? hb
    exact {
      key_eq := hkey
      key_length := by omega
      key_digits := (Hex.decode?_eq_some_iff.mp hk).1.digits
      signature_eq := hsignature
      signature_length := by omega
      signature_digits := (Hex.decode?_eq_some_iff.mp hb).1.digits
      valid := ⟨k, b, hk, hb, hverify⟩ }

/-- There is always an answer. -/
theorem exists_checkSignature (key : Value) (message : Bytes) (signature : Value) :
    ∃ valid, checkSignature key message signature = .ok valid ∧
      (valid = true ↔ ∃ s t, IsSigned key message signature s t) := by
  obtain ⟨valid, hvalid, hiff⟩ := exists_handling
    (fun m : Bytes × Bytes => decide (m.2.length = 64) && Ed25519.verify m.1 message m.2)
    fun _ => @isAmong_of_material key signature _
  refine ⟨valid, ?_, hiff.trans ?_⟩
  · simp only [checkSignature, handling_verify]
    exact hvalid
  · simp only [material_eq_ok_iff, readKey_eq_ok_iff, readSignature_eq_ok_iff, isSigned_iff,
      Bool.and_eq_true, decide_eq_true_eq, Prod.exists]
    grind

theorem signatureBytes?_eq (v : Value) : signatureBytes? v = v.characters?.bind Hex.decode? := by
  cases v <;> rfl

theorem verifySignature_eq_true_iff : verifySignature key message signature ↔ ∃ k b,
    decodeHex key = .ok k ∧ signatureBytes? signature = some b ∧ Ed25519.verify k message b := by
  unfold verifySignature
  split <;> simp_all

theorem length_of_verify {k b : Bytes} (h : Ed25519.verify k message b) :
    k.length = 32 ∧ b.length = 64 := by
  by_contra hlength
  rw [Ed25519.verify, if_neg fun hwell => hlength ⟨hwell.1, hwell.2.1⟩] at h
  cases h

/-- The check in steps and the check in one come to the same. -/
theorem checkSignature_eq (key : Value) (message : Bytes) (signature : Value) :
    checkSignature key message signature = .ok (verifySignature key message signature) := by
  obtain ⟨valid, hvalid, hiff⟩ := exists_checkSignature key message signature
  have hsame : valid = true ↔ verifySignature key message signature = true := by
    simp only [hiff, verifySignature_eq_true_iff, decodeHex_eq_ok_iff, signatureBytes?_eq,
      Option.bind_eq_some_iff, isSigned_iff]
    constructor
    · rintro ⟨s, t, k, b, ⟨rfl, hk, -⟩, ⟨ht, hb⟩, -, hverify⟩
      exact ⟨k, b, ⟨s, rfl, hk⟩, ⟨t, ht, hb⟩, hverify⟩
    · rintro ⟨k, b, ⟨s, rfl, hk⟩, ⟨t, ht, hb⟩, hverify⟩
      obtain ⟨hkey, hlength⟩ := length_of_verify hverify
      exact ⟨s, t, k, b, ⟨rfl, hk, hkey⟩, ⟨ht, hb⟩, hlength, hverify⟩
  rw [hvalid, Bool.eq_iff_iff.mpr hsame]

theorem signatureBytes?_eq_of_lower_eq {signature' : Value}
    (h : signature'.characters?.map Text.lower = signature.characters?.map Text.lower) :
    signatureBytes? signature' = signatureBytes? signature := by
  rw [signatureBytes?_eq, signatureBytes?_eq]
  cases ht' : signature'.characters? with
  | none =>
    rw [ht', eq_comm, Option.map_none, Option.map_eq_none_iff] at h
    rw [h]
  | some t' =>
    rw [ht', eq_comm, Option.map_some, Option.map_eq_some_iff] at h
    obtain ⟨t, ht, hlower⟩ := h
    rw [ht]
    exact Hex.decode?_eq_of_lower_eq hlower.symm

/-- Which signatures are valid does not depend on the case of the digits. -/
theorem checkSignature_eq_of_lower_eq {s s' : Text} {signature' : Value} (hkey : s'.lower = s.lower)
    (hsignature : signature'.characters?.map Text.lower = signature.characters?.map Text.lower) :
    checkSignature (.text s') message signature' = checkSignature (.text s) message signature := by
  have hsame : verifySignature (.text s') message signature' = true ↔
      verifySignature (.text s) message signature = true := by
    simp only [verifySignature_eq_true_iff, decodeHex_eq_ok_iff, Value.text.injEq, exists_eq_left',
      Hex.decode?_eq_of_lower_eq hkey, signatureBytes?_eq_of_lower_eq hsignature]
  rw [checkSignature_eq, checkSignature_eq, Bool.eq_iff_iff.mpr hsame]

theorem KeyPair.checkSignature_sign (k : KeyPair) (message : Bytes) :
    checkSignature (.text k.publicKey) message (.text (k.sign message)) =
      .ok (Ed25519.verify k.publicBytes message (Ed25519.sign k.seed message)) := by
  rw [checkSignature_eq, verifySignature, KeyPair.decodeHex_publicKey, signatureBytes?, KeyPair.sign,
    Hex.decode?_encode]

/-- There is always an answer. It is positive exactly for 64 hexadecimal digits as the key and 128 as
the signature that fit the message, and stays the same in another case of the letters. It is positive
for what a key pair signs if the bytes are valid, and they are unless the nonce of the signature is
zero. -/
theorem checkSignature_verdict (message : Bytes) :
    (∀ key signature, ∃ valid, checkSignature key message signature = .ok valid ∧
      (valid = true ↔ ∃ s t, IsSigned key message signature s t)) ∧
    (∀ (s s' : Text) (signature signature' : Value), s'.lower = s.lower →
      signature'.characters?.map Text.lower = signature.characters?.map Text.lower →
      checkSignature (.text s') message signature' = checkSignature (.text s) message signature) ∧
    ∀ k : KeyPair,
      (checkSignature (.text k.publicKey) message (.text (k.sign message)) = .ok true ↔
        Ed25519.verify k.publicBytes message (Ed25519.sign k.seed message)) ∧
      (Ed25519.verify k.publicBytes message (Ed25519.sign k.seed message) ↔
        Ed25519.nonce k.seed message ≠ 0) := by
  refine ⟨fun key signature => exists_checkSignature key message signature,
    fun s s' signature signature' => checkSignature_eq_of_lower_eq,
    fun k => ⟨?_, Ed25519.verify_sign k.seed message⟩⟩
  rw [KeyPair.checkSignature_sign, Except.ok.injEq]

/-- A signature under the key of its signer, with a capital letter for a small one in the key. -/
theorem checkSignature_verdict_sample :
    let key : Text := List.map (fun c => if c.val = 0x61 then .ofNat 0x41 else c) sampleKey.publicKey
    checkSignature (.text key) [1, 2, 3] (.text (sampleKey.sign [1, 2, 3])) = .ok true := by
  intro key
  obtain ⟨-, hcase, hsign⟩ := checkSignature_verdict [1, 2, 3]
  obtain ⟨hanswer, hnonce⟩ := hsign sampleKey
  rw [hcase sampleKey.publicKey key (.text (sampleKey.sign [1, 2, 3])) _ (by decide +kernel) rfl]
  exact hanswer.mpr (hnonce.mpr (by decide +kernel))

end RelayClient
