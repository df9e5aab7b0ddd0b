import RelayClient.Proofs.HeaderOrder
import RelayClient.Proofs.Outcomes
import RelayClient.SignedProof

/-!
# The documents of a relay

An input whose fields are as callers promise to fill them has documents that can be read back. They
are records of fixed layout, with the headers in key order.
-/
namespace RelayClient

/-- A token whose fields are texts. -/
structure Token.Typed (t : Token) : Prop where
  version : t.version.kind = .text
  appPublicKey : t.appPublicKey.kind = .text
  clientPublicKey : t.clientPublicKey.kind = .text
  signature : t.signature.kind = .text

/-- An input with texts in its text fields, a map of texts for its headers, if there are any, and an
integer for the height of its session. -/
structure Input.Typed (i : Input) : Prop where
  blockchain : i.blockchain.kind = .text
  data : i.data.kind = .text
  method : i.method.kind = .text
  path : i.path.kind = .text
  headers : i.headers.all Entries.isTextMap
  token : ∀ t, i.token = some t → t.Typed
  sessionHeight : ∀ h, i.sessionHeight = .ok h → h.kind = .int

/-- A proof with texts in its text fields and integers for its entropy and its height. -/
structure Proof.Typed (p : Proof) : Prop where
  requestHash : p.requestHash.kind = .text
  entropy : p.entropy.kind = .int
  sessionBlockHeight : p.sessionBlockHeight.kind = .int
  servicerPublicKey : p.servicerPublicKey.kind = .text
  blockchain : p.blockchain.kind = .text
  token : ∀ t, p.token = some t → t.Typed
  signature : p.signature.kind = .text

section Hashes

variable {v : Value} {x : Bytes}

theorem canonicalBytes_eq_ok_iff : canonicalBytes v = .ok x ↔ Canonical.encode v = .ok x := by
  rw [canonicalBytes]
  cases Canonical.encode v with
  | error c => exact ⟨nofun, nofun⟩
  | ok b =>
    constructor
    · exact fun h => congrArg Except.ok (Except.ok.inj h)
    · exact fun h => congrArg Except.ok (Except.ok.inj h)

theorem canonicalHash_eq_ok_iff :
    canonicalHash v = .ok x ↔ ∃ b, canonicalBytes v = .ok b ∧ Sha3.hash b = x := by
  simp only [canonicalHash, bind_eq_ok_iff, pure_eq_ok_iff]

theorem canonicalHex_eq_ok_iff {t : Text} :
    canonicalHex v = .ok t ↔ ∃ x, canonicalHash v = .ok x ∧ Hex.encode x = t := by
  simp only [canonicalHex, bind_eq_ok_iff, pure_eq_ok_iff]

theorem canonicalHash_of_isWritable (h : v.everywhere GoJson.isWritable) :
    canonicalHash v = .ok (Sha3.hash (GoJson.encode v)) :=
  canonicalHash_eq_ok_iff.mpr ⟨_, canonicalBytes_eq_ok_iff.mpr (encode_of_isWritable h), rfl⟩

theorem Hex.encode_injective {x y : Bytes} (h : Hex.encode x = Hex.encode y) : x = y := by
  have hd := congrArg Hex.decode? h
  rw [Hex.decode?_encode, Hex.decode?_encode] at hd
  exact Option.some.inj hd

end Hashes

namespace Input

def payloadRecord (i : Input) (headers : Value) : Value := .record [
  ("data", i.data), ("method", i.method), ("path", i.path), ("headers", headers)]

def requestRecord (i : Input) (headers height : Value) : Value := .record [
  ("payload", i.payloadRecord headers), ("meta", .record [("block_height", height)])]

variable {i : Input} {headers height : Value}

theorem payload_toValue (h : sortedMap i.headers = .ok headers) :
    i.payload.toValue = .ok (i.payloadRecord headers) := by
  rw [Payload.toValue, payload, h]
  rfl

theorem request_toValue (h : sortedMap i.headers = .ok headers) :
    Request.toValue ⟨i.payload, ⟨height⟩⟩ = .ok (i.requestRecord headers height) := by
  rw [Request.toValue, payload_toValue h]
  rfl

/-- The unsigned proof of a request that has a hash. -/
def proofWith (i : Input) (node : Node) (entropy height : Value) (requestHash : Bytes) : Proof where
  requestHash := .text (Hex.encode requestHash)
  entropy
  sessionBlockHeight := height
  servicerPublicKey := node.publicKey
  blockchain := i.blockchain
  token := i.token

theorem unsignedProof_eq_ok_iff {node : Node} {entropy : Value} {p : Proof} :
    i.unsignedProof (some node) entropy = .ok p ↔
    ∃ height headers x, i.sessionHeight = .ok height ∧ sortedMap i.headers = .ok headers ∧
      canonicalHash (i.requestRecord headers height) = .ok x ∧
      p = i.proofWith node entropy height x := by
  simp only [unsignedProof, metadata, Request.hash, Request.toValue, Payload.toValue, payload,
    bind_eq_ok_iff, pure_eq_ok_iff, canonicalHex_eq_ok_iff]
  constructor
  · rintro ⟨_, ⟨height, hheight, rfl⟩, _, ⟨_, ⟨_, ⟨headers, hheaders, rfl⟩, rfl⟩, x, hx, rfl⟩, rfl⟩
    exact ⟨height, headers, x, hheight, hheaders, hx, rfl⟩
  · rintro ⟨height, headers, x, hheight, hheaders, hx, rfl⟩
    exact ⟨_, ⟨height, hheight, rfl⟩, _, ⟨_, ⟨_, ⟨headers, hheaders, rfl⟩, rfl⟩, x, hx, rfl⟩, rfl⟩

end Input

namespace Proof

/-- The document that the signature covers, the token having a hash. -/
def signableRecord (p : Proof) (tokenHash : Bytes) : Value := .record [
  ("entropy", p.entropy),
  ("session_block_height", p.sessionBlockHeight),
  ("servicer_pub_key", p.servicerPublicKey),
  ("blockchain", p.blockchain),
  ("signature", ""),
  ("token", .text (Hex.encode tokenHash)),
  ("request_hash", p.requestHash)]

theorem isWritable_signable {p : Proof}
    (h : ∀ v ∈ [p.entropy, p.sessionBlockHeight, p.servicerPublicKey, p.blockchain, p.requestHash],
      v.everywhere GoJson.isWritable) (tokenHash : Bytes) :
    (p.signableRecord tokenHash).everywhere GoJson.isWritable := by
  refine isWritable_record ?_
  simp only [List.forall_mem_cons, List.not_mem_nil, false_imp_iff, implies_true, and_true] at h ⊢
  obtain ⟨hentropy, hheight, hservicer, hblockchain, hrequest⟩ := h
  exact ⟨hentropy, hheight, hservicer, hblockchain, rfl, isWritable_hex _, hrequest⟩

theorem signable_eq_ok_iff {p : Proof} {v : Value} : p.signable = .ok v ↔
    ∃ token x, p.token = some token ∧ canonicalHash token.unsigned.toValue = .ok x ∧
      v = p.signableRecord x := by
  cases ht : p.token with
  | none =>
    rw [signable, ht]
    constructor
    · rintro ⟨⟩
    · rintro ⟨_, _, ⟨⟩, _⟩
  | some token =>
    rw [signable, ht]
    simp only [Token.hash, bind_eq_ok_iff, pure_eq_ok_iff, canonicalHex_eq_ok_iff]
    constructor
    · rintro ⟨_, ⟨x, hx, rfl⟩, rfl⟩
      exact ⟨token, x, rfl, hx, rfl⟩
    · rintro ⟨_, x, ⟨⟩, hx, rfl⟩
      exact ⟨_, ⟨x, hx, rfl⟩, rfl⟩

theorem digest_eq_ok_iff {p : Proof} {d : Bytes} : p.digest = .ok d ↔
    ∃ token x, p.token = some token ∧ canonicalHash token.unsigned.toValue = .ok x ∧
      canonicalHash (p.signableRecord x) = .ok d := by
  simp only [digest, bind_eq_ok_iff, signable_eq_ok_iff]
  constructor
  · rintro ⟨_, ⟨token, x, ht, hx, rfl⟩, hd⟩
    exact ⟨token, x, ht, hx, hd⟩
  · rintro ⟨token, x, ht, hx, hd⟩
    exact ⟨_, ⟨token, x, ht, hx, rfl⟩, hd⟩

end Proof

/-! Which documents can be read back -/

section Typed

open Json

theorem Token.Typed.isJson_toValue {t : Token} (h : t.Typed) : t.toValue.everywhere isJson := by
  refine isJson_record (by simp) ?_
  simp only [List.forall_mem_cons, List.not_mem_nil, false_imp_iff, implies_true, and_true]
  exact ⟨isJson_of_kind (.inl h.version), isJson_of_kind (.inl h.appPublicKey),
    isJson_of_kind (.inl h.clientPublicKey), isJson_of_kind (.inl h.signature)⟩

theorem Token.Typed.unsigned {t : Token} (h : t.Typed) : t.unsigned.Typed :=
  ⟨h.version, h.appPublicKey, h.clientPublicKey, rfl⟩

variable {i : Input} {headers height : Value}

theorem Input.Typed.isJson_payload (h : i.Typed) (hs : sortedMap i.headers = .ok headers) :
    (i.payloadRecord headers).everywhere isJson := by
  obtain ⟨v, hv, hheaders⟩ := exists_sortedMap h.headers
  obtain rfl : v = headers := Except.ok.inj (hv.symm.trans hs)
  refine isJson_record (by simp) ?_
  simp only [List.forall_mem_cons, List.not_mem_nil, false_imp_iff, implies_true, and_true]
  exact ⟨isJson_of_kind (.inl h.data), isJson_of_kind (.inl h.method),
    isJson_of_kind (.inl h.path), hheaders⟩

theorem Metadata.isJson_toValue (h : height.kind = .int) :
    (Metadata.toValue ⟨height⟩).everywhere isJson := by
  refine isJson_record (by simp) ?_
  simpa using isJson_of_kind (.inr h)

theorem Input.Typed.isJson_request (h : i.Typed) (hs : sortedMap i.headers = .ok headers)
    (hh : i.sessionHeight = .ok height) :
    (i.requestRecord headers height).everywhere isJson := by
  refine isJson_record (by simp) ?_
  simp only [List.forall_mem_cons, List.not_mem_nil, false_imp_iff, implies_true, and_true]
  exact ⟨h.isJson_payload hs, Metadata.isJson_toValue (h.sessionHeight _ hh)⟩

theorem Input.Typed.unsignedProof (h : i.Typed) {node : Node} (hn : node.publicKey.kind = .text)
    {entropy : Int} {p : Proof} (hp : i.unsignedProof (some node) (.int entropy) = .ok p) :
    p.Typed := by
  obtain ⟨height, headers, x, hh, -, -, rfl⟩ := Input.unsignedProof_eq_ok_iff.mp hp
  exact ⟨rfl, rfl, h.sessionHeight _ hh, hn, h.blockchain, h.token, rfl⟩

theorem Proof.Typed.isJson_toValue {p : Proof} (h : p.Typed) {v : Value} (hv : p.toValue = .ok v) :
    v.everywhere isJson := by
  obtain ⟨requestHash, entropy, height, servicer, blockchain, token, signature⟩ := p
  cases token with
  | none => cases hv
  | some token =>
    obtain rfl := Except.ok.inj hv
    refine isJson_record (by simp) ?_
    simp only [List.forall_mem_cons, List.not_mem_nil, false_imp_iff, implies_true, and_true]
    exact ⟨isJson_of_kind (.inl h.requestHash), isJson_of_kind (.inr h.entropy),
      isJson_of_kind (.inr h.sessionBlockHeight), isJson_of_kind (.inl h.servicerPublicKey),
      isJson_of_kind (.inl h.blockchain), (h.token token rfl).isJson_toValue,
      isJson_of_kind (.inl h.signature)⟩

theorem RelayInput.isJson_toValue {r : RelayInput} {payload v : Value}
    (hp : r.payload.toValue = .ok payload) (hj : payload.everywhere isJson)
    (hm : r.metadata.blockHeight.kind = .int) (ht : r.proof.Typed) (hv : r.toValue = .ok v) :
    v.everywhere isJson := by
  simp only [toValue, bind_eq_ok_iff, pure_eq_ok_iff] at hv
  obtain ⟨_, hp', proof, hproof, rfl⟩ := hv
  obtain rfl := Except.ok.inj (hp.symm.trans hp')
  refine isJson_record (by simp) ?_
  simp only [List.forall_mem_cons, List.not_mem_nil, false_imp_iff, implies_true, and_true]
  exact ⟨hj, Metadata.isJson_toValue hm, ht.isJson_toValue hproof⟩

end Typed
end RelayClient
