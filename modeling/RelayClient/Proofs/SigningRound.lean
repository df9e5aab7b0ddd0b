import RelayClient.Proofs.PointEncoding

/-!
# What is signed verifies

The commitment of a signature is a multiple of the base point by a nonce. The second half of the
signature makes up for the challenge times the secret, so that a verifier, who knows the public key
only, arrives at the commitment again. The signature is valid unless the nonce is zero: then the
commitment has small order.
-/
namespace RelayClient.Ed25519

/-- The number that a seed keeps secret for a message. -/
def nonce (seed message : Bytes) : ℕ :=
  littleEndianValue (Sha2.sha512 ((expand seed).2 ++ message)) % groupOrder

def secret (seed : Bytes) : ℕ := (expand seed).1

variable {seed message : Bytes}

theorem groupOrder_pos : 0 < groupOrder := by decide

theorem nonce_lt : nonce seed message < groupOrder := Nat.mod_lt _ groupOrder_pos

theorem secret_form (seed : Bytes) : ∃ a, secret seed = 2 ^ 254 + a % 2 ^ 254 / 8 * 8 := by
  refine ⟨littleEndianValue ((Sha2.sha512 seed).take 32), ?_⟩
  rw [secret, expand, Nat.one_shiftLeft]

theorem secret_lt : secret seed < 2 ^ 255 := by
  obtain ⟨a, ha⟩ := secret_form seed
  omega

theorem groupOrder_dvd_eight_mul_iff {n : ℕ} : groupOrder ∣ 8 * n ↔ groupOrder ∣ n :=
  Nat.Coprime.dvd_mul_left (by decide +kernel)

/-- The secret is a multiple of eight, and too small to be one of the order as well. -/
theorem not_dvd_secret : ¬ groupOrder ∣ secret seed := by
  obtain ⟨a, ha⟩ := secret_form seed
  have height : secret seed = 8 * (2 ^ 251 + a % 2 ^ 254 / 8) := by omega
  have horder : 2 ^ 252 ≤ groupOrder := by decide
  rw [height, groupOrder_dvd_eight_mul_iff]
  intro h
  have hle := Nat.le_of_dvd (by omega) h
  omega

theorem publicKey_eq (seed : Bytes) :
    publicKey seed = littleEndian 32 (pointNumber (secret seed • basePoint)) :=
  (base_represents.times secret_lt).encode_eq

def commitment (seed message : Bytes) : Bytes :=
  littleEndian 32 (pointNumber (nonce seed message • basePoint))

def answer (seed message : Bytes) : ℕ :=
  (nonce seed message +
    challenge (commitment seed message) (publicKey seed) message * secret seed) % groupOrder

theorem sign_eq (seed message : Bytes) :
    sign seed message = commitment seed message ++ littleEndian 32 (answer seed message) := by
  have hnonce : nonce seed message < 2 ^ 253 := nonce_lt.trans (by decide)
  have hcommitment := (base_represents.times hnonce).encode_eq
  rw [answer, commitment, ← hcommitment]
  rfl

/-- The challenge times the public key goes away in the answer times the base point. -/
theorem answer_nsmul (seed message : Bytes) :
    answer seed message • basePoint +
      challenge (commitment seed message) (publicKey seed) message • -(secret seed • basePoint) =
    nonce seed message • basePoint := by
  rw [answer, nsmul_mod_groupOrder, add_nsmul, mul_nsmul', neg_nsmul, add_neg_cancel_right]

theorem eight_nsmul_basePoint_iff {n : ℕ} : 8 • n • basePoint = 0 ↔ groupOrder ∣ n := by
  rw [← mul_nsmul', nsmul_basePoint_eq_zero_iff, groupOrder_dvd_eight_mul_iff]

/-- The test of a verifier, for halves of the right sizes under a key that can be decoded. -/
theorem verify_append {key half : Bytes} {n : ℕ} {a : Point} (hkey : key.length = 32)
    (hcanonical : isCanonical key) (hdecode : Point.decode? key = some a) (hhalf : half.length = 32)
    (hn : n < groupOrder) : verify key message (half ++ littleEndian 32 n) =
      let r := (Point.base.times 253 n).sum (a.negate.times 253 (challenge half key message))
      (!a.hasSmallOrder && !r.hasSmallOrder && r.encode == half) := by
  have hlength : (half ++ littleEndian 32 n).length = 64 := by
    rw [List.length_append, hhalf, length_littleEndian]
  have hvalue : littleEndianValue (littleEndian 32 n) = n :=
    littleEndianValue_littleEndian (hn.trans (by decide))
  rw [verify, List.take_left' hhalf, List.drop_left' hhalf, hvalue,
    if_pos ⟨hkey, hlength, hn, hcanonical⟩, hdecode]

/-- A signature is valid exactly if its nonce is not zero. -/
theorem verify_sign (seed message : Bytes) :
    verify (publicKey seed) message (sign seed message) ↔ nonce seed message ≠ 0 := by
  have hkey : (publicKey seed).length = 32 := by
    rw [publicKey_eq, length_littleEndian]
  have hcanonical : isCanonical (publicKey seed) := by
    rw [publicKey_eq]
    exact isCanonical_pointNumber _
  obtain ⟨a, hdecode, ha⟩ := decode?_pointNumber (secret seed • basePoint)
  rw [← publicKey_eq] at hdecode
  have hcommitment : (commitment seed message).length = 32 := length_littleEndian ..
  have hanswer : answer seed message < groupOrder := Nat.mod_lt _ groupOrder_pos
  have hchallenge : challenge (commitment seed message) (publicKey seed) message < groupOrder :=
    Nat.mod_lt _ groupOrder_pos
  have hsize : groupOrder < 2 ^ 253 := by decide
  have hr := (base_represents.times (hanswer.trans hsize)).sum
    (ha.negate.times (hchallenge.trans hsize))
  rw [answer_nsmul] at hr
  have hencode := hr.encode_eq
  rw [← commitment] at hencode
  have hkeyOrder : a.hasSmallOrder = false := by
    rw [← Bool.not_eq_true, ha.hasSmallOrder_iff, eight_nsmul_basePoint_iff]
    exact not_dvd_secret
  have hnonce : groupOrder ∣ nonce seed message ↔ nonce seed message = 0 :=
    ⟨fun h => Nat.eq_zero_of_dvd_of_lt h nonce_lt, fun h => h ▸ dvd_zero _⟩
  rw [sign_eq, verify_append hkey hcanonical hdecode hcommitment hanswer]
  dsimp only
  rw [hkeyOrder, hencode, Bool.not_false, Bool.true_and, beq_self_eq_true, Bool.and_true,
    Bool.not_eq_true', ← Bool.not_eq_true, hr.hasSmallOrder_iff, eight_nsmul_basePoint_iff, hnonce]

end RelayClient.Ed25519
