import RelayClient.Category
import RelayClient.KeyPair
import RelayClient.Proofs.HexDigits
import RelayClient.Proofs.KeyPoints
import RelayClient.Proofs.PointEncoding
import RelayClient.Proofs.RelayRecords

/-!
# Loading and saving key pairs

A key pair is loaded from the digits of its seed, or from those of its seed and of its public key.
It is saved as the latter in lower case, so that whatever is loaded can be saved and loaded again.
-/
namespace RelayClient

namespace KeyPair

variable {k l : KeyPair} {v : Value} {f : Fault}

@[simp] theorem length_publicBytes (k : KeyPair) : k.publicBytes.length = 32 :=
  Ed25519.length_littleEndian ..

/-- Seeds of 32 bytes are loaded, and so are they with the public key behind them. -/
theorem ofPrivateBytes_eq_ok_iff {bytes : Bytes} : ofPrivateBytes bytes = .ok k ↔
    k.seed.length = 32 ∧ (bytes = k.seed ∨ bytes = k.seed ++ k.publicBytes) := by
  have hpublic := k.length_publicBytes
  constructor
  · intro h
    unfold ofPrivateBytes at h
    split at h
    · rename_i hlength
      cases h
      exact ⟨hlength, .inl rfl⟩
    · split at h
      · rename_i hlength
        dsimp only at h
        split at h
        · rename_i hmatch
          cases h
          have hseed : (bytes.take 32).length = 32 := by
            rw [List.length_take]
            omega
          refine ⟨hseed, .inr ?_⟩
          rw [← hmatch, List.take_append_drop]
        · cases h
      · cases h
  · rintro ⟨hseed, rfl | rfl⟩
    · exact if_pos hseed
    · have hlength : (k.seed ++ k.publicBytes).length = 64 := by
        rw [List.length_append]
        omega
      rw [ofPrivateBytes, if_neg (by omega), if_pos hlength]
      dsimp only
      rw [List.take_left' hseed, List.drop_left' hseed]
      exact if_pos rfl

theorem ofPrivateBytes_eq_error_iff {bytes : Bytes} : ofPrivateBytes bytes = .error f ↔
    bytes.length ≠ 32 ∧ bytes.length ≠ 64 ∧ f = .privateKeyLength ∨
    bytes.length = 64 ∧ bytes.drop 32 ≠ Ed25519.publicKey (bytes.take 32) ∧
      f = .privateKeyMismatch := by
  have hpublic : Ed25519.publicKey (bytes.take 32) = (⟨bytes.take 32⟩ : KeyPair).publicBytes := rfl
  rw [hpublic]
  unfold ofPrivateBytes
  dsimp only
  split
  · rename_i hlength
    simp [hlength]
  · split
    · rename_i hlength
      split
      · rename_i hmatch
        simp [hlength, hmatch]
      · rename_i hother
        simp [hlength, hother, eq_comm]
    · rename_i hseed hboth
      simp [hseed, hboth, eq_comm]

/-- A key pair is loaded from the digits of its seed and from its private key, in either case. -/
theorem ofPrivateKey_eq_ok_iff : ofPrivateKey v = .ok k ↔ ∃ t, v = .text t ∧ Hex.IsHex t ∧
    k.seed.length = 32 ∧ (t.lower = Hex.encode k.seed ∨ t.lower = k.privateKey) := by
  simp only [ofPrivateKey, bind_eq_ok_iff, decodeHex_eq_ok_iff, ofPrivateBytes_eq_ok_iff,
    Hex.decode?_eq_some_iff]
  constructor
  · rintro ⟨bytes, ⟨t, rfl, hhex, ht⟩, hseed, rfl | rfl⟩
    · exact ⟨t, rfl, hhex, hseed, .inl ht⟩
    · exact ⟨t, rfl, hhex, hseed, .inr ht⟩
  · rintro ⟨t, rfl, hhex, hseed, ht | ht⟩
    · exact ⟨_, ⟨t, rfl, hhex, ht⟩, hseed, .inl rfl⟩
    · exact ⟨_, ⟨t, rfl, hhex, ht⟩, hseed, .inr rfl⟩

/-- The texts that key pairs are loaded from. -/
structure IsPrivateKey (t : Text) : Prop where
  digits : ∀ c ∈ t, c.isHexDigit
  length : t.length = 64 ∨ t.length = 128
  /-- The public key at the end is that of the seed in front. -/
  matching : t.length = 128 → ∀ bytes, Hex.decode? t = some bytes →
    bytes.drop 32 = Ed25519.publicKey (bytes.take 32)

theorem IsPrivateKey.isHex {t : Text} (h : IsPrivateKey t) : Hex.IsHex t where
  even := by
    have hlength := h.length
    omega
  digits := h.digits

/-- Why a value holds no key pair. -/
inductive Refused : Value → Fault → Prop where
  | kind (v : Value) : v.kind ≠ .text → Refused v .hexNotText
  | malformed (t : Text) : ¬ Hex.IsHex t → Refused (.text t) (.hexMalformed t)
  | length (t : Text) : Hex.IsHex t → t.length ≠ 64 → t.length ≠ 128 →
      Refused (.text t) .privateKeyLength
  | mismatch (t : Text) (bytes : Bytes) : t.length = 128 → Hex.decode? t = some bytes →
      bytes.drop 32 ≠ Ed25519.publicKey (bytes.take 32) → Refused (.text t) .privateKeyMismatch

theorem ofPrivateKey_eq_error_iff : ofPrivateKey v = .error f ↔ Refused v f := by
  simp only [ofPrivateKey, bind_eq_error_iff, decodeHex_eq_error_iff, decodeHex_eq_ok_iff,
    ofPrivateBytes_eq_error_iff]
  constructor
  · rintro ((⟨hkind, rfl⟩ | ⟨t, rfl, ht, rfl⟩) | ⟨bytes, ⟨t, rfl, ht⟩, h⟩)
    · exact .kind v hkind
    · exact .malformed t ht
    · have hlength := Hex.length_of_decode? ht
      obtain ⟨hseed, hboth, rfl⟩ | ⟨hboth, hother, rfl⟩ := h
      · exact .length t (Hex.decode?_eq_some_iff.mp ht).1 (by omega) (by omega)
      · exact .mismatch t bytes (by omega) ht hother
  · intro h
    cases h with
    | kind _ hkind => exact .inl (.inl ⟨hkind, rfl⟩)
    | malformed t ht => exact .inl (.inr ⟨t, rfl, ht, rfl⟩)
    | length t ht hseed hboth =>
      obtain ⟨bytes, hbytes⟩ := Hex.exists_decode?_iff.mpr ht
      have hlength := Hex.length_of_decode? hbytes
      exact .inr ⟨bytes, ⟨t, rfl, hbytes⟩, .inl ⟨by omega, by omega, rfl⟩⟩
    | mismatch t bytes hboth ht hother =>
      have hlength := Hex.length_of_decode? ht
      exact .inr ⟨bytes, ⟨t, rfl, ht⟩, .inr ⟨by omega, hother, rfl⟩⟩

theorem Refused.category_eq (h : Refused v f) :
    f.category = if v.kind = .text then .value else .type := by
  cases h with
  | kind _ hkind => exact (if_neg hkind).symm
  | malformed | length | mismatch => rfl

theorem exists_ofPrivateKey_iff :
    (∃ k, ofPrivateKey v = .ok k) ↔ ∃ t, v = .text t ∧ IsPrivateKey t := by
  have hfault : (∃ k, ofPrivateKey v = .ok k) ↔ ∀ f, ¬ Refused v f := by
    simp only [← ofPrivateKey_eq_error_iff]
    cases ofPrivateKey v <;> simp
  rw [hfault]
  constructor
  · intro h
    by_cases hkind : v.kind = .text
    · obtain ⟨t, rfl⟩ := Value.eq_text_of_kind hkind
      have hhex : Hex.IsHex t := by
        by_contra hhex
        exact h _ (.malformed t hhex)
      refine ⟨t, rfl, hhex.digits, ?_, ?_⟩
      · by_contra hlength
        obtain ⟨hseed, hboth⟩ := not_or.mp hlength
        exact h _ (.length t hhex hseed hboth)
      · intro hboth bytes hbytes
        by_contra hother
        exact h _ (.mismatch t bytes hboth hbytes hother)
    · exact absurd (.kind v hkind) (h _)
  · rintro ⟨t, rfl, ht⟩ f hf
    cases hf with
    | kind _ hkind => exact hkind rfl
    | malformed _ hhex => exact hhex ht.isHex
    | length _ _ hseed hboth =>
      obtain hlength | hlength := ht.length
      · exact hseed hlength
      · exact hboth hlength
    | mismatch _ bytes hboth hbytes hother => exact hother (ht.matching hboth bytes hbytes)

theorem take_privateKey (hk : k.seed.length = 32) : k.privateKey.take 64 = Hex.encode k.seed := by
  rw [privateKey, Hex.encode_append, List.take_left']
  rw [Hex.length_encode, hk]

theorem take_of_ofPrivateKey {t : Text} (h : ofPrivateKey (.text t) = .ok k) :
    t.lower.take 64 = Hex.encode k.seed := by
  obtain ⟨_, ⟨⟩, -, hseed, ht | ht⟩ := ofPrivateKey_eq_ok_iff.mp h
  · rw [ht, List.take_of_length_le]
    rw [Hex.length_encode, hseed]
  · rw [ht, take_privateKey hseed]

theorem seed_length_of_ofPrivateKey (h : ofPrivateKey v = .ok k) : k.seed.length = 32 := by
  obtain ⟨_, -, -, hseed, -⟩ := ofPrivateKey_eq_ok_iff.mp h
  exact hseed

theorem exists_address (k : KeyPair) : k.address =
    .ok (Hex.encode ((Sha2.sha256 k.publicBytes).take 20)) := by
  rw [address, addressOf, if_pos k.length_publicBytes]
  rfl

/-- Key pairs are loaded from exactly the texts of 64 or 128 hexadecimal digits whose second half, if
there is one, is the public key of the first; anything else is refused for the first thing that is
wrong. What has been loaded is saved as the digits of its seed and its public key, in lower case, and
loaded again from these as well as from its seed. Two texts give the same private key exactly if they
begin with the same digits. -/
theorem load_and_save (v : Value) :
    ((∃ k, ofPrivateKey v = .ok k) ↔ ∃ t, v = .text t ∧ IsPrivateKey t) ∧
    (∀ f, ofPrivateKey v = .error f ↔ Refused v f) ∧
    (∀ f, Refused v f → f.category = if v.kind = .text then .value else .type) ∧
    ∀ t k, v = .text t → ofPrivateKey v = .ok k →
      Hex.decode? (t.take 64) = some k.seed ∧
      k.privateKey = t.lower.take 64 ++ k.publicKey ∧
      k.address = .ok (Hex.encode ((Sha2.sha256 k.publicBytes).take 20)) ∧
      ofPrivateKey (.text k.privateKey) = .ok k ∧
      ofPrivateKey (.text (k.privateKey.take 64)) = .ok k ∧
      ∀ s l, ofPrivateKey (.text s) = .ok l →
        (k.privateKey = l.privateKey ↔ t.lower.take 64 = s.lower.take 64) := by
  refine ⟨exists_ofPrivateKey_iff, fun f => ofPrivateKey_eq_error_iff,
    fun f => Refused.category_eq, ?_⟩
  rintro t k rfl hk
  have hseed := seed_length_of_ofPrivateKey hk
  have htake := take_of_ofPrivateKey hk
  obtain ⟨_, ⟨⟩, hhex, -, -⟩ := ofPrivateKey_eq_ok_iff.mp hk
  refine ⟨?_, ?_, k.exists_address, ?_, ?_, ?_⟩
  · have hlower : Text.lower (t.take 64) = Hex.encode k.seed := by
      rw [← htake, Text.lower, Text.lower, List.map_take]
    exact Hex.decode?_eq_some_iff.mpr
      ⟨Hex.IsHex.of_lower_eq (hlower.trans (Hex.lower_encode _).symm) (Hex.isHex_encode _), hlower⟩
  · rw [htake, privateKey, Hex.encode_append, publicKey]
  · exact ofPrivateKey_eq_ok_iff.mpr
      ⟨_, rfl, Hex.isHex_encode _, hseed, .inr (Hex.lower_encode _)⟩
  · rw [take_privateKey hseed]
    exact ofPrivateKey_eq_ok_iff.mpr
      ⟨_, rfl, Hex.isHex_encode _, hseed, .inl (Hex.lower_encode _)⟩
  · intro s l hl
    rw [htake, take_of_ofPrivateKey hl]
    constructor
    · intro h
      rw [← take_privateKey hseed, h, take_privateKey (seed_length_of_ofPrivateKey hl)]
    · intro h
      rw [privateKey, privateKey, publicBytes, publicBytes, Hex.encode_injective h]

/-- A seed in mixed case is loaded, and so is what is saved of it; a number is refused. -/
theorem load_and_save_mixed_case :
    let k : KeyPair := ⟨List.replicate 32 0xAB⟩
    let t : Text := (List.replicate 32 (Text.ofString "aB")).flatten
    ofPrivateKey (.text t) = .ok k ∧ Hex.decode? (t.take 64) = some k.seed ∧
      k.privateKey = t.lower.take 64 ++ k.publicKey ∧ ofPrivateKey (.text k.privateKey) = .ok k ∧
      ofPrivateKey (.int 7) = .error .hexNotText ∧ Fault.hexNotText.category = .type := by
  intro k t
  have hload : ofPrivateKey (.text t) = .ok k :=
    ofPrivateKey_eq_ok_iff.mpr ⟨t, rfl, ⟨by decide, by decide⟩, rfl, .inl (by decide)⟩
  obtain ⟨-, -, -, hsave⟩ := load_and_save (.text t)
  obtain ⟨hseed, hprivate, -, hagain, -, -⟩ := hsave t k rfl hload
  obtain ⟨-, herror, hcategory, -⟩ := load_and_save (.int 7)
  have hrefused : Refused (.int 7) .hexNotText := .kind _ (by decide)
  exact ⟨hload, hseed, hprivate, hagain, (herror _).mpr hrefused, hcategory _ hrefused⟩

end KeyPair
end RelayClient
