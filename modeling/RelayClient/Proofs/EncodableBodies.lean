import RelayClient.Proofs.EncodingFaults
import RelayClient.Proofs.RelayCourse
import RelayClient.Proofs.RelayRecords

/-!
# Bodies that can be encoded

What is hashed before a proof is signed and what is sent afterwards share their fields, except for the
signature of the token: it is sent, but no hash covers it. So once a signer has been called, this
signature alone decides whether there is a body to be sent; and if hashing has failed, there is none.
-/
namespace RelayClient

def Value.IsEncodable (v : Value) : Prop := ∃ b, canonicalBytes v = .ok b

def RelayInput.IsEncodable (r : RelayInput) : Prop := ∃ v, r.toValue = .ok v ∧ v.IsEncodable

section Values

variable {v : Value}

theorem isEncodable_record {fields : List (String × Value)} :
    (Value.record fields).IsEncodable ↔ ∀ f ∈ fields, f.2.IsEncodable := by
  simp only [Value.IsEncodable, exists_canonicalBytes_iff, Value.hasFault_record, not_exists,
    not_and]
  exact ⟨fun h f hf u => h u f hf, fun h u f hf => h f hf u⟩

theorem isEncodable_record_nil : (Value.record []).IsEncodable := isEncodable_record.mpr nofun

theorem isEncodable_record_cons {name : String} {fields : List (String × Value)} :
    (Value.record ((name, v) :: fields)).IsEncodable ↔
      v.IsEncodable ∧ (Value.record fields).IsEncodable := by
  rw [isEncodable_record, isEncodable_record, List.forall_mem_cons]

theorem isEncodable_text {t : Text} (h : t.hasSurrogate = false) :
    (Value.text t).IsEncodable := by
  rw [Value.IsEncodable, exists_canonicalBytes_iff]
  simp [Value.hasFault_text, h]

theorem isEncodable_hex (x : Bytes) : (Value.text (Hex.encode x)).IsEncodable := by
  refine isEncodable_text ?_
  induction x with
  | nil => rfl
  | cons b x ih => simp [Hex.encode, ih]

/-- Numbers of at most nineteen digits are far from being too long. -/
theorem isEncodable_int {n : Int} (h : n.natAbs < 10000000000000000000) :
    (Value.int n).IsEncodable := by
  have hlen : (Nat.toDigits 10 n.natAbs).length ≤ 19 :=
    (Nat.length_toDigits_le_iff (by decide) (by decide)).mpr h
  have hmax : 19 ≤ maxDigits := by decide
  rw [Value.IsEncodable, exists_canonicalBytes_iff]
  intro u hu
  have hlong := (Value.hasFault_int.mp hu).2
  omega

theorem exists_canonicalHash_iff : (∃ x, canonicalHash v = .ok x) ↔ v.IsEncodable := by
  simp only [canonicalHash_eq_ok_iff, Value.IsEncodable]
  constructor
  · rintro ⟨_, b, hb, -⟩
    exact ⟨b, hb⟩
  · rintro ⟨b, hb⟩
    exact ⟨_, b, hb, rfl⟩

end Values

theorem Token.isEncodable_unsigned {t : Token} : t.unsigned.toValue.IsEncodable ↔
    t.version.IsEncodable ∧ t.appPublicKey.IsEncodable ∧ t.clientPublicKey.IsEncodable := by
  have hempty : (Value.text (Text.ofString "")).IsEncodable := isEncodable_text rfl
  simp only [toValue, unsigned, isEncodable_record_cons, isEncodable_record_nil, and_true, hempty]

theorem Token.isEncodable_toValue {t : Token} :
    t.toValue.IsEncodable ↔ t.unsigned.toValue.IsEncodable ∧ t.signature.IsEncodable := by
  rw [isEncodable_unsigned]
  simp only [toValue, isEncodable_record_cons, isEncodable_record_nil, and_true, and_assoc]

namespace Proof

/-- The document of a proof, the token having its own document in it. -/
def sentRecord (p : Proof) (token : Token) : Value := .record [
  ("request_hash", p.requestHash),
  ("entropy", p.entropy),
  ("session_block_height", p.sessionBlockHeight),
  ("servicer_pub_key", p.servicerPublicKey),
  ("blockchain", p.blockchain),
  ("aat", token.toValue),
  ("signature", p.signature)]

variable {p : Proof} {token : Token}

theorem toValue_eq_ok_iff {v : Value} : p.toValue = .ok v ↔
    ∃ token, p.token = some token ∧ v = p.sentRecord token := by
  cases ht : p.token with
  | none =>
    rw [toValue, ht]
    constructor
    · rintro ⟨⟩
    · rintro ⟨_, ⟨⟩, _⟩
  | some token =>
    rw [toValue, ht]
    constructor
    · rintro ⟨⟩
      exact ⟨token, rfl, rfl⟩
    · rintro ⟨_, ⟨⟩, rfl⟩
      rfl

/-- What is signed has the fields of the proof, and two texts that are always in form. -/
theorem isEncodable_signableRecord {tokenHash : Bytes} :
    (p.signableRecord tokenHash).IsEncodable ↔ p.entropy.IsEncodable ∧
      p.sessionBlockHeight.IsEncodable ∧ p.servicerPublicKey.IsEncodable ∧
      p.blockchain.IsEncodable ∧ p.requestHash.IsEncodable := by
  have hempty : (Value.text (Text.ofString "")).IsEncodable := isEncodable_text rfl
  simp only [signableRecord, isEncodable_record_cons, isEncodable_record_nil, and_true, hempty,
    isEncodable_hex, true_and]

theorem isEncodable_sentRecord (tokenHash : Bytes) : (p.sentRecord token).IsEncodable ↔
    (p.signableRecord tokenHash).IsEncodable ∧ token.toValue.IsEncodable ∧
      p.signature.IsEncodable := by
  simp only [isEncodable_signableRecord, sentRecord, isEncodable_record_cons,
    isEncodable_record_nil, and_true]
  constructor
  · rintro ⟨hrequest, hentropy, hheight, hservicer, hblockchain, htoken, hsignature⟩
    exact ⟨⟨hentropy, hheight, hservicer, hblockchain, hrequest⟩, htoken, hsignature⟩
  · rintro ⟨⟨hentropy, hheight, hservicer, hblockchain, hrequest⟩, htoken, hsignature⟩
    exact ⟨hrequest, hentropy, hheight, hservicer, hblockchain, htoken, hsignature⟩

end Proof

namespace Input

/-- Everything that is hashed before a proof is signed can be encoded: the request, the token but for
its signature, and what the proof adds to them. -/
structure Hashes (i : Input) (node : Node) (entropy height headers : Value) (token : Token) :
    Prop where
  hasToken : i.token = some token
  sortsHeaders : sortedMap i.headers = .ok headers
  request : (i.requestRecord headers height).IsEncodable
  token : token.unsigned.toValue.IsEncodable
  entropy : entropy.IsEncodable
  servicer : node.publicKey.IsEncodable
  blockchain : i.blockchain.IsEncodable

/-- The body of a relay by a node, whatever its hash and its signature are. -/
def bodyWith (i : Input) (node : Node) (entropy height : Value) (requestHash : Bytes)
    (signature : Value) : RelayInput :=
  ⟨i.payload, ⟨height⟩, { i.proofWith node entropy height requestHash with signature }⟩

variable {i : Input} {node : Node} {entropy height headers : Value} {token : Token}

theorem Hashes.signableRecord (h : i.Hashes node entropy height headers token)
    (requestHash tokenHash : Bytes) :
    ((i.proofWith node entropy height requestHash).signableRecord tokenHash).IsEncodable := by
  have hheight : height.IsEncodable := by
    have hrequest := h.request
    simp only [requestRecord, isEncodable_record_cons, isEncodable_record_nil, and_true] at hrequest
    exact hrequest.2
  exact Proof.isEncodable_signableRecord.mpr
    ⟨h.entropy, hheight, h.servicer, h.blockchain, isEncodable_hex _⟩

/-- There is a digest to be signed exactly if everything that is hashed can be encoded. -/
theorem exists_digested_iff : (∃ a, i.digested (some node) entropy = .ok a) ↔
    ∃ height headers token, i.sessionHeight = .ok height ∧
      i.Hashes node entropy height headers token := by
  constructor
  · rintro ⟨⟨p, d⟩, h⟩
    obtain ⟨hp, hd⟩ := digested_eq_ok_iff.mp h
    obtain ⟨height, headers, x, hheight, hheaders, hx, rfl⟩ := unsignedProof_eq_ok_iff.mp hp
    obtain ⟨token, y, htoken, hy, hd⟩ := Proof.digest_eq_ok_iff.mp hd
    have hrequest := exists_canonicalHash_iff.mp ⟨x, hx⟩
    have hunsigned := exists_canonicalHash_iff.mp ⟨y, hy⟩
    have hproof := exists_canonicalHash_iff.mp ⟨d, hd⟩
    obtain ⟨hentropy, -, hservicer, hblockchain, -⟩ := Proof.isEncodable_signableRecord.mp hproof
    exact ⟨height, headers, token, hheight, htoken, hheaders, hrequest, hunsigned, hentropy,
      hservicer, hblockchain⟩
  · rintro ⟨height, headers, token, hheight, h⟩
    obtain ⟨x, hx⟩ := exists_canonicalHash_iff.mpr h.request
    obtain ⟨y, hy⟩ := exists_canonicalHash_iff.mpr h.token
    obtain ⟨d, hd⟩ := exists_canonicalHash_iff.mpr (h.signableRecord x y)
    refine ⟨(i.proofWith node entropy height x, d), digested_eq_ok_iff.mpr ⟨?_, ?_⟩⟩
    · exact unsignedProof_eq_ok_iff.mpr ⟨height, headers, x, hheight, h.sortsHeaders, hx, rfl⟩
    · exact Proof.digest_eq_ok_iff.mpr ⟨token, y, h.hasToken, hy, hd⟩

theorem payload_toValue_eq_ok_iff {v : Value} : i.payload.toValue = .ok v ↔
    ∃ headers, sortedMap i.headers = .ok headers ∧ v = i.payloadRecord headers := by
  simp only [Payload.toValue, payload, bind_eq_ok_iff, pure_eq_ok_iff]
  constructor
  · rintro ⟨headers, hheaders, rfl⟩
    exact ⟨headers, hheaders, rfl⟩
  · rintro ⟨headers, hheaders, rfl⟩
    exact ⟨headers, hheaders, rfl⟩

theorem isEncodable_body {r : RelayInput} (hpayload : r.payload = i.payload)
    (htoken : r.proof.token = i.token) : r.IsEncodable ↔ ∃ headers token,
      sortedMap i.headers = .ok headers ∧ i.token = some token ∧
      (i.requestRecord headers r.metadata.blockHeight).IsEncodable ∧
      (r.proof.sentRecord token).IsEncodable := by
  simp only [RelayInput.IsEncodable, RelayInput.toValue, bind_eq_ok_iff, pure_eq_ok_iff, hpayload,
    payload_toValue_eq_ok_iff, Proof.toValue_eq_ok_iff, htoken]
  constructor
  · rintro ⟨_, ⟨_, ⟨headers, hheaders, rfl⟩, _, ⟨token, htoken, rfl⟩, rfl⟩, h⟩
    rw [isEncodable_record_cons, isEncodable_record_cons, isEncodable_record_cons] at h
    obtain ⟨hpayload, hmetadata, hproof, -⟩ := h
    refine ⟨headers, token, hheaders, htoken, ?_, hproof⟩
    rw [requestRecord, isEncodable_record_cons, isEncodable_record_cons]
    exact ⟨hpayload, hmetadata, isEncodable_record_nil⟩
  · rintro ⟨headers, token, hheaders, htoken, hrequest, hproof⟩
    refine ⟨_, ⟨_, ⟨headers, hheaders, rfl⟩, _, ⟨token, htoken, rfl⟩, rfl⟩, ?_⟩
    rw [requestRecord, isEncodable_record_cons, isEncodable_record_cons] at hrequest
    obtain ⟨hpayload, hmetadata, -⟩ := hrequest
    rw [isEncodable_record_cons, isEncodable_record_cons, isEncodable_record_cons]
    exact ⟨hpayload, hmetadata, hproof, isEncodable_record_nil⟩

theorem isEncodable_bodyWith {requestHash : Bytes} {signature : Value} :
    (i.bodyWith node entropy height requestHash signature).IsEncodable ↔
    ∃ headers token, i.Hashes node entropy height headers token ∧
      token.signature.IsEncodable ∧ signature.IsEncodable := by
  rw [isEncodable_body rfl rfl]
  constructor
  · rintro ⟨headers, token, hheaders, htoken, hrequest, hproof⟩
    -- The hash in place of the token may be any.
    obtain ⟨hsigned, htokenValue, hsignature⟩ := (Proof.isEncodable_sentRecord []).mp hproof
    obtain ⟨hunsigned, htokenSignature⟩ := Token.isEncodable_toValue.mp htokenValue
    obtain ⟨hentropy, -, hservicer, hblockchain, -⟩ := Proof.isEncodable_signableRecord.mp hsigned
    exact ⟨headers, token, ⟨htoken, hheaders, hrequest, hunsigned, hentropy, hservicer,
      hblockchain⟩, htokenSignature, hsignature⟩
  · rintro ⟨headers, token, h, htokenSignature, hsignature⟩
    have htokenValue := Token.isEncodable_toValue.mpr ⟨h.token, htokenSignature⟩
    exact ⟨headers, token, h.sortsHeaders, h.hasToken, h.request,
      (Proof.isEncodable_sentRecord []).mpr ⟨h.signableRecord _ _, htokenValue, hsignature⟩⟩

theorem isEncodable_entropyAt (i : Input) (d : Draws) : (Value.int (i.entropyAt d)).IsEncodable := by
  obtain ⟨hnonneg, hlt⟩ := d.answer_mem_range i.nodeBounds.length entropyBound_pos
  have hbound : entropyBound < 10000000000000000000 := by decide
  refine isEncodable_int ?_
  rw [entropyAt]
  omega

/-- Behind a digest the body waits for its signatures only. -/
theorem of_digested {unsigned : Proof} {digest : Bytes}
    (h : i.digested (some node) entropy = .ok (unsigned, digest)) (options : Option Options)
    (signature : Value) : ∃ height headers token requestHash,
      i.Hashes node entropy height headers token ∧
      (i.handover options node unsigned signature).input =
        i.bodyWith node entropy height requestHash signature := by
  obtain ⟨height, headers, token, hheight, hhashes⟩ := exists_digested_iff.mp ⟨_, h⟩
  obtain ⟨height', _, requestHash, hheight', -, -, rfl⟩ :=
    unsignedProof_eq_ok_iff.mp (digested_eq_ok_iff.mp h).1
  obtain rfl : height = height' := Except.ok.inj (hheight.symm.trans hheight')
  exact ⟨height, headers, token, requestHash, hhashes, rfl⟩

theorem exists_digested_of_isEncodable {requestHash : Bytes} {signature entropy' : Value}
    (hheight : i.sessionHeight = .ok height) (hentropy' : entropy'.IsEncodable)
    (h : (i.bodyWith node entropy height requestHash signature).IsEncodable) :
    ∃ a, i.digested (some node) entropy' = .ok a := by
  obtain ⟨headers, token, hhashes, -, -⟩ := isEncodable_bodyWith.mp h
  exact exists_digested_iff.mpr ⟨height, headers, token, hheight, { hhashes with
    entropy := hentropy' }⟩

end Input

namespace Relayer

variable {r : Relayer} {i : Input} {draws : Draws}

theorem Passed.effects_of_digested (P : r.Passed i) (options : Option Options) {node : Node}
    {unsigned : Proof} {digest : Bytes} {signature : Value}
    (hnode : i.nodeAt draws = .ok node)
    (hdigested : i.digested (some node) (.int (i.entropyAt draws)) = .ok (unsigned, digest))
    (hsign : P.signer.sign digest = .ok signature) :
    let k := ((r.relay i options).run { draws }).2
    k.signed = [digest] ∧ k.handed = [i.handover options node unsigned signature] := by
  have hk : ((r.relay i options).run { draws }).2 = _ :=
    congrArg Prod.snd (P.run_relay (j := { draws }) hnode)
  simp only [Input.serve, hdigested, hsign] at hk
  rw [hk]
  exact ⟨rfl, rfl⟩

/-- Once the signer has been called, only the signature of the token decides whether the body that is
handed over can be encoded; and if the signer was not called although there is a node, then no
signature at all would have given a body that can be encoded. The signer is any that answers with
texts without surrogates. -/
theorem signed_body_encodable_iff (options : Option Options) (draws : Draws)
    (hpassed : r.failedPrecondition? i = none)
    (hsigner : ∀ s, r.signer = some s → ∀ d, ∃ t, s.sign d = .ok (.text t) ∧
      t.hasSurrogate = false) :
    let k := ((r.relay i options).run { draws }).2
    (∀ d ∈ k.signed, ∃ h token, k.handed = [h] ∧ i.token = some token ∧
      (h.input.IsEncodable ↔ token.signature.IsEncodable)) ∧
    (k.signed = [] → ∀ node, (i.resolveNode.run { draws }).1 = .ok node →
      ∃ height, i.sessionHeight = .ok height ∧ ∀ entropy requestHash signature,
        ¬ (i.bodyWith node entropy height requestHash signature).IsEncodable) := by
  intro k
  obtain ⟨P⟩ := exists_passed hpassed
  have hresolve := Input.run_resolveNode (j := { draws }) P.hasSession P.hasNodes
  cases hnode : i.nodeAt draws with
  | error f =>
    have hk : k = _ := congrArg Prod.snd (P.run_relay_of_error (j := { draws }) hnode)
    rw [hresolve, hk]
    refine ⟨nofun, fun _ node hok => ?_⟩
    cases hok.symm.trans hnode
  | ok node =>
  cases hdigested : i.digested (some node) (.int (i.entropyAt draws)) with
  | error f =>
    have hk : k = _ := congrArg Prod.snd (P.run_relay (j := { draws }) hnode)
    simp only [Input.serve, hdigested] at hk
    rw [hresolve, hk]
    refine ⟨fun d hd => absurd hd List.not_mem_nil, fun _ node' hok => ?_⟩
    obtain rfl : node = node' := Except.ok.inj (hnode.symm.trans hok)
    have hheight : i.sessionHeight = .ok P.header.sessionHeight := by
      simp [Input.sessionHeight, P.hasSession, P.hasHeader]
    refine ⟨_, hheight, fun entropy requestHash signature hbody => ?_⟩
    obtain ⟨a, ha⟩ := Input.exists_digested_of_isEncodable hheight
      (i.isEncodable_entropyAt draws) hbody
    cases ha.symm.trans hdigested
  | ok a =>
  obtain ⟨unsigned, digest⟩ := a
  obtain ⟨t, hsign, ht⟩ := hsigner P.signer P.hasSigner digest
  obtain ⟨hsigned, hhanded⟩ := P.effects_of_digested options hnode hdigested hsign
  obtain ⟨height, headers, token, requestHash, hhashes, hbody⟩ :=
    Input.of_digested hdigested options (.text t)
  refine ⟨fun _ _ => ⟨_, token, hhanded, hhashes.hasToken, ?_⟩, fun hnone => ?_⟩
  · rw [hbody, Input.isEncodable_bodyWith]
    constructor
    · rintro ⟨_, token', hhashes', htoken', -⟩
      obtain rfl : token = token' := Option.some.inj (hhashes.hasToken.symm.trans hhashes'.hasToken)
      exact htoken'
    · intro htoken
      exact ⟨headers, token, hhashes, htoken, isEncodable_text ht⟩
  · cases hnone.symm.trans hsigned

/-- A token whose signature is a lone surrogate is no obstacle to signing, but the body that is handed
over cannot be encoded. -/
theorem signed_body_encodable_iff_surrogate : ∃ (r : Relayer) (i : Input) (h : Handover),
    ((r.relay i none).run { draws := .ofList [0] }).2.handed = [h] ∧ ¬ h.input.IsEncodable := by
  let token : Token := { signature := .text [CodePoint.ofNat 0xD800] }
  let node : Node := { publicKey := "ee" }
  let i : Input := {
    session := some { header := some { sessionHeight := .int 7 }, nodes := [node] }
    token := some token }
  let r : Relayer := ⟨some (.fixed "ab"), some (.fixed {})⟩
  obtain ⟨P⟩ := exists_passed (r := r) (i := i) rfl
  have hsigner : ∀ s, r.signer = some s → ∀ d, ∃ t, s.sign d = .ok (.text t) ∧
      t.hasSurrogate = false := by
    rintro _ ⟨⟩ d
    exact ⟨_, rfl, Text.hasSurrogate_ofString "ab"⟩
  have hempty : (Value.text (Text.ofString "")).IsEncodable := isEncodable_text rfl
  have hhashes : i.Hashes node (.int (i.entropyAt (.ofList [0]))) (.int 7) .null token := {
    hasToken := rfl
    sortsHeaders := rfl
    request := by
      simp only [Input.requestRecord, Input.payloadRecord, isEncodable_record_cons,
        isEncodable_record_nil, and_true]
      exact ⟨⟨hempty, hempty, hempty, ⟨_, rfl⟩⟩, isEncodable_int (by decide)⟩
    token := Token.isEncodable_unsigned.mpr ⟨hempty, hempty, hempty⟩
    entropy := i.isEncodable_entropyAt _
    servicer := isEncodable_text rfl
    blockchain := hempty }
  obtain ⟨⟨unsigned, digest⟩, hdigested⟩ :=
    Input.exists_digested_iff.mpr ⟨_, _, _, rfl, hhashes⟩
  obtain ⟨t, hsign, -⟩ := hsigner P.signer P.hasSigner digest
  have hnode : i.nodeAt (.ofList [0]) = .ok node := rfl
  obtain ⟨hsigned, -⟩ := P.effects_of_digested none hnode hdigested hsign
  obtain ⟨hcalled, -⟩ := signed_body_encodable_iff (i := i) none (.ofList [0]) rfl hsigner
  rw [hsigned] at hcalled
  obtain ⟨h, token', hhanded, htoken, hiff⟩ := hcalled digest (List.mem_singleton_self digest)
  refine ⟨r, i, h, hhanded, fun hbody => ?_⟩
  obtain rfl : token = token' := Option.some.inj htoken
  have hnone := exists_canonicalBytes_iff.mp (hiff.mp hbody) .surrogate
  exact hnone (Value.hasFault_text.mpr ⟨rfl, rfl⟩)

end Relayer
end RelayClient
