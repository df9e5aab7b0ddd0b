import Mathlib.NumberTheory.LegendreSymbol.JacobiSymbol
import Mathlib.Tactic.LinearCombination
import Mathlib.Tactic.NormNum.LegendreSymbol
import RelayClient.Proofs.CurveField
import RelayClient.Proofs.FieldPrime
import RelayClient.Proofs.Outcomes
import RelayClient.Transaction

/-!
# Which public keys are points

A key of secp256k1 is accepted exactly if it is the compressed form of a point. A key of ed25519 is
accepted for its length, so that some of the keys in stake messages lie on no curve.
-/
namespace RelayClient

namespace Secp256k1

/-- A mark for the parity of the second coordinate, then the first one, in 32 bytes, of a point of the
curve `y² = x³ + 7`. -/
inductive IsPoint : Bytes → Prop where
  | compressed {mark : UInt8} {rest : Bytes} (marked : mark = 2 ∨ mark = 3)
      (length : rest.length = 32) (reduced : Sha2.bigEndianValue rest < fieldSize)
      (lies : IsSquare ((Sha2.bigEndianValue rest : ZMod fieldSize) ^ 3 + 7)) :
      IsPoint (mark :: rest)

theorem IsPoint.length_eq {bytes : Bytes} (h : IsPoint bytes) : bytes.length = 33 := by
  cases h with
  | compressed _ length => rw [List.length_cons, length]

/-- The power that is tried for a root is one, if there is any. -/
theorem isSquare_iff (n : ℕ) : isSquare n ↔ IsSquare (n : ZMod fieldSize) := by
  have : Fact fieldSize.Prime := ⟨fieldSize_prime⟩
  have hroot : Ed25519.powMod fieldSize n 256 ((fieldSize + 1) / 4) =
      n ^ ((fieldSize + 1) / 4) % fieldSize := Ed25519.powMod_eq _ _ (by decide)
  have hcheck : isSquare n ↔
      (n : ZMod fieldSize) ^ ((fieldSize + 1) / 4) * n ^ ((fieldSize + 1) / 4) = n := by
    rw [isSquare, hroot, beq_iff_eq, ← ZMod.natCast_eq_natCast_iff']
    push_cast [ZMod.natCast_mod]
    exact Iff.rfl
  rw [hcheck]
  constructor
  · intro h
    exact ⟨_, h.symm⟩
  · rintro ⟨s, hs⟩
    have hexponent : 2 * ((fieldSize + 1) / 4 + (fieldSize + 1) / 4) = fieldSize + 1 := by decide
    calc (n : ZMod fieldSize) ^ ((fieldSize + 1) / 4) * n ^ ((fieldSize + 1) / 4)
        = s ^ (2 * ((fieldSize + 1) / 4 + (fieldSize + 1) / 4)) := by
          rw [← pow_add, hs, ← pow_two, ← pow_mul]
      _ = s * s := by rw [hexponent, pow_succ, ZMod.pow_card]
      _ = n := hs.symm

theorem isCompressedPoint_iff (bytes : Bytes) : isCompressedPoint bytes ↔ IsPoint bytes := by
  cases bytes with
  | nil => exact ⟨nofun, nofun⟩
  | cons mark rest =>
    have hcubic : (cubic (Sha2.bigEndianValue rest) : ZMod fieldSize) =
        (Sha2.bigEndianValue rest : ZMod fieldSize) ^ 3 + 7 := by
      rw [cubic, ZMod.natCast_mod]
      push_cast
      ring
    simp only [isCompressedPoint, Bool.and_eq_true, Bool.or_eq_true, beq_iff_eq, decide_eq_true_eq]
    rw [isSquare_iff, hcubic]
    constructor
    · rintro ⟨⟨⟨marked, length⟩, reduced⟩, lies⟩
      exact .compressed marked length reduced lies
    · rintro ⟨marked, length, reduced, lies⟩
      exact ⟨⟨⟨marked, length⟩, reduced⟩, lies⟩

end Secp256k1

namespace Ed25519

/-- The equation `y² - x² = 1 + d x² y²` for `d = -121665 / 121666`, multiplied out. -/
def OnCurve (x y : ZMod fieldSize) : Prop :=
  121666 * (y ^ 2 - x ^ 2) = 121666 - 121665 * x ^ 2 * y ^ 2

instance (x y : ZMod fieldSize) : Decidable (OnCurve x y) := inferInstanceAs (Decidable (_ = _))

/-- In 32 bytes the second coordinate of a point of the curve, reduced, and above it the parity of the
first one. -/
structure IsPoint (bytes : Bytes) : Prop where
  length : bytes.length = 32
  reduced : isCanonical bytes
  lies : ∃ x < fieldSize, x % 2 = littleEndianValue bytes / 2 ^ 255 ∧
    OnCurve x (littleEndianValue bytes % 2 ^ 255 : ℕ)

/-- The base point. -/
example : IsPoint (0x58 :: List.replicate 31 0x66) :=
  ⟨rfl, by decide, Point.base.X, by decide, by decide, by decide +kernel⟩

theorem not_onCurve_two (x : ZMod fieldSize) : ¬ OnCurve x 2 := by
  intro h
  rw [OnCurve] at h
  have hsquare : IsSquare ((-364998 * 364994 : ℤ) : ZMod fieldSize) := by
    refine ⟨364994 * x, ?_⟩
    push_cast
    linear_combination -364994 * h
  have hsize : fieldSize = 2 ^ 255 - 19 := by decide
  have hsymbol : jacobiSym (-364998 * 364994) fieldSize = -1 := by
    rw [hsize]
    norm_num
  exact ZMod.nonsquare_of_jacobiSym_eq_neg_one hsymbol hsquare

theorem verify_of_decode?_eq_none {key : Bytes} (h : Point.decode? key = none)
    (message signature : Bytes) : verify key message signature = false := by
  simp only [verify, h, ite_self]

end Ed25519

/-- What is known of an accepted key: the length for ed25519, a point for secp256k1. -/
def PublicKey.IsChecked (k : PublicKey) : Prop :=
  match k.scheme with
  | .ed25519 => k.bytes.length = 32
  | .secp256k1 => Secp256k1.IsPoint k.bytes

theorem decodeHex_eq_ok_iff {v : Value} {bytes : Bytes} :
    decodeHex v = .ok bytes ↔ ∃ t, v = .text t ∧ Hex.decode? t = some bytes := by
  unfold decodeHex
  split
  · rename_i t
    cases ht : Hex.decode? t with
    | none => simp [ht]
    | some b => simp [ht]
  · rename_i hother
    constructor
    · intro h
      cases h
    · rintro ⟨t, rfl, -⟩
      exact absurd rfl (hother t)

namespace PublicKey

variable {k : PublicKey}

theorem ofBytes_eq_ok_iff {bytes : Bytes} :
    ofBytes bytes = .ok k ↔ k.bytes = bytes ∧ k.IsChecked := by
  constructor
  · intro h
    unfold ofBytes at h
    split at h
    · rename_i hlength
      cases h
      exact ⟨rfl, hlength⟩
    · split at h
      · split at h
        · rename_i hpoint
          cases h
          exact ⟨rfl, (Secp256k1.isCompressedPoint_iff bytes).mp hpoint⟩
        · cases h
      · cases h
  · obtain ⟨scheme, raw⟩ := k
    rintro ⟨rfl, hchecked⟩
    cases scheme with
    | ed25519 => exact if_pos hchecked
    | secp256k1 =>
      have hlength := hchecked.length_eq
      rw [ofBytes, if_neg (by omega), if_pos hlength,
        if_pos ((Secp256k1.isCompressedPoint_iff raw).mpr hchecked)]

theorem ofBytes_eq_error_iff {bytes : Bytes} {f : Fault} : ofBytes bytes = .error f ↔
    bytes.length ≠ 32 ∧ bytes.length ≠ 33 ∧ f = .publicKeyLength bytes.length ∨
    bytes.length = 33 ∧ ¬ Secp256k1.IsPoint bytes ∧ f = .secp256k1Key := by
  unfold ofBytes
  split
  · rename_i hlength
    simp [hlength]
  · rename_i hlength
    split
    · rename_i hpoint
      split
      · rename_i hlies
        have hpoint' := (Secp256k1.isCompressedPoint_iff bytes).mp hlies
        simp [hpoint, hpoint']
      · rename_i hlies
        have hpoint' : ¬ Secp256k1.IsPoint bytes := by rwa [← Secp256k1.isCompressedPoint_iff]
        simp [hpoint, hpoint', eq_comm]
    · rename_i hpoint
      simp [hlength, hpoint, eq_comm]

theorem parse_eq_ok_iff {v : Value} : parse v = .ok k ↔
    ∃ t, v = .text t ∧ Hex.decode? t = some k.bytes ∧ k.IsChecked := by
  simp only [parse, bind_eq_ok_iff, decodeHex_eq_ok_iff, ofBytes_eq_ok_iff]
  constructor
  · rintro ⟨_, ⟨t, ht, hdecode⟩, rfl, hchecked⟩
    exact ⟨t, ht, hdecode, hchecked⟩
  · rintro ⟨t, ht, hdecode, hchecked⟩
    exact ⟨_, ⟨t, ht, hdecode⟩, rfl, hchecked⟩

end PublicKey

namespace Message

variable {key chains amount url output : Value} {m : Message}

theorem newStakeApp_eq_ok_iff : newStakeApp key chains amount = .ok m ↔
    ∃ k cs, PublicKey.parse key = .ok k ∧ chains.elements = .ok cs ∧ m = .stakeApp k cs amount := by
  simp only [newStakeApp, bind_eq_ok_iff, pure_eq_ok_iff]
  constructor
  · rintro ⟨k, hk, cs, hcs, rfl⟩
    exact ⟨k, cs, hk, hcs, rfl⟩
  · rintro ⟨k, cs, hk, hcs, rfl⟩
    exact ⟨k, hk, cs, hcs, rfl⟩

theorem newStakeNode_eq_ok_iff : newStakeNode key url output chains amount = .ok m ↔
    ∃ k cs address, PublicKey.parse key = .ok k ∧ chains.elements = .ok cs ∧
      decodeHex output = .ok address ∧ m = .stakeNode k cs amount url address := by
  simp only [newStakeNode, bind_eq_ok_iff, pure_eq_ok_iff]
  constructor
  · rintro ⟨k, hk, cs, hcs, address, haddress, rfl⟩
    exact ⟨k, cs, address, hk, hcs, haddress, rfl⟩
  · rintro ⟨k, cs, address, hk, hcs, haddress, rfl⟩
    exact ⟨k, hk, cs, hcs, address, haddress, rfl⟩

/-- A value is accepted as a key exactly if it is a text that writes 32 bytes, or a point of secp256k1,
in hexadecimal digits. Whoever stakes is named by a key that was accepted, so that one of secp256k1 is
a point. -/
theorem staked_key_checked (key : Value) :
    (∀ k, PublicKey.parse key = .ok k ↔
      ∃ t, key = .text t ∧ Hex.decode? t = some k.bytes ∧ k.IsChecked) ∧
    (∀ chains amount m, newStakeApp key chains amount = .ok m →
      ∃ k cs, m = .stakeApp k cs amount ∧ PublicKey.parse key = .ok k ∧
        (k.scheme = .secp256k1 → Secp256k1.IsPoint k.bytes)) ∧
    ∀ url output chains amount m, newStakeNode key url output chains amount = .ok m →
      ∃ k cs address, m = .stakeNode k cs amount url address ∧ PublicKey.parse key = .ok k ∧
        (k.scheme = .secp256k1 → Secp256k1.IsPoint k.bytes) := by
  have hpoint {k : PublicKey} (hk : PublicKey.parse key = .ok k) (hscheme : k.scheme = .secp256k1) :
      Secp256k1.IsPoint k.bytes := by
    obtain ⟨_, -, -, hchecked⟩ := PublicKey.parse_eq_ok_iff.mp hk
    rwa [PublicKey.IsChecked, hscheme] at hchecked
  refine ⟨fun k => PublicKey.parse_eq_ok_iff, ?_, ?_⟩
  · intro chains amount m hm
    obtain ⟨k, cs, hk, -, rfl⟩ := newStakeApp_eq_ok_iff.mp hm
    exact ⟨k, cs, rfl, hk, hpoint hk⟩
  · intro url output chains amount m hm
    obtain ⟨k, cs, address, hk, -, -, rfl⟩ := newStakeNode_eq_ok_iff.mp hm
    exact ⟨k, cs, address, rfl, hk, hpoint hk⟩

/-- A key that stakes although it is no point: its second coordinate is two. No signature holds under
it. Another one is accepted although its second coordinate is not reduced. -/
theorem staked_key_off_curve :
    let bytes : Bytes := 2 :: List.replicate 31 0
    let unreduced : Bytes := List.replicate 31 0xFF ++ [0x7F]
    let k : PublicKey := ⟨.ed25519, bytes⟩
    PublicKey.parse (.text (Hex.encode bytes)) = .ok k ∧ ¬ Ed25519.IsPoint bytes ∧
    (∀ message signature, Ed25519.verify bytes message signature = false) ∧
    newStakeApp (.text (Hex.encode bytes)) (.array []) (.int 1) = .ok (.stakeApp k [] (.int 1)) ∧
    newStakeNode (.text (Hex.encode bytes)) "" "" (.array []) (.int 1) =
      .ok (.stakeNode k [] (.int 1) "" []) ∧
    PublicKey.parse (.text (Hex.encode unreduced)) = .ok ⟨.ed25519, unreduced⟩ ∧
      ¬ Ed25519.IsPoint unreduced := by
  intro bytes unreduced k
  have hparse : PublicKey.parse (.text (Hex.encode bytes)) = .ok k :=
    PublicKey.parse_eq_ok_iff.mpr ⟨_, rfl, Hex.decode?_encode _, rfl⟩
  refine ⟨hparse, ?_, ?_, ?_, ?_, ?_, ?_⟩
  · rintro ⟨-, -, x, -, -, hcurve⟩
    have hy : Ed25519.littleEndianValue bytes % 2 ^ 255 = 2 := by decide
    rw [hy, Nat.cast_ofNat] at hcurve
    exact Ed25519.not_onCurve_two x hcurve
  · intro message signature
    have hdecode : Ed25519.Point.decode? bytes = none := by decide +kernel
    exact Ed25519.verify_of_decode?_eq_none hdecode message signature
  · exact newStakeApp_eq_ok_iff.mpr ⟨k, [], hparse, rfl, rfl⟩
  · exact newStakeNode_eq_ok_iff.mpr ⟨k, [], [], hparse, rfl, rfl, rfl⟩
  · exact PublicKey.parse_eq_ok_iff.mpr ⟨_, rfl, Hex.decode?_encode _, rfl⟩
  · intro hpoint
    have hlarge : ¬ Ed25519.isCanonical unreduced := by decide
    exact hlarge hpoint.reduced

end Message
end RelayClient
