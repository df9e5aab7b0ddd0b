import RelayClient.HttpProvider
import RelayClient.Proofs.RelayRecords
import RelayClient.Proofs.RelayRuns
import RelayClient.Proofs.SigningRound

/-!
# What a servicer finds in a posted body

A servicer has the bytes of a relay only. It parses them, hashes the request and the proof again and
compares. Everything it needs is in the body, and it comes to the same hashes as the client.
-/
namespace RelayClient

/-- The member of an object under a name. -/
def Value.member? : Value → String → Option Value
  | .object entries, name => Entries.value? name entries
  | _, _ => none

def Token.read? (v : Value) : Option Token := do
  return ⟨← v.member? "version", ← v.member? "app_pub_key", ← v.member? "client_pub_key",
    ← v.member? "signature"⟩

def Proof.read? (v : Value) : Option Proof := do
  return {
    requestHash := ← v.member? "request_hash"
    entropy := ← v.member? "entropy"
    sessionBlockHeight := ← v.member? "session_block_height"
    servicerPublicKey := ← v.member? "servicer_pub_key"
    blockchain := ← v.member? "blockchain"
    token := some (← Token.read? (← v.member? "aat"))
    signature := ← v.member? "signature" }

/-- The three members of a relay as a servicer reads them. -/
structure Reading where
  payload : Value
  metadata : Value
  proof : Proof

def Reading.ofBody? (body : Bytes) : Option Reading := do
  let document ← Json.parse? body
  return {
    payload := ← document.member? "payload"
    metadata := ← document.member? "meta"
    proof := ← Proof.read? (← document.member? "proof") }

/-- The request whose hash is in the proof. -/
def Reading.request (r : Reading) : Value :=
  .record [("payload", r.payload), ("meta", r.metadata)]

/-- The member of a record under a name is the first field of that name. -/
theorem member?_record (fields : List (String × Value)) (name : String) :
    (Value.record fields).member? name = (fields.find? (·.1 = name)).map (·.2) := by
  rw [Value.record, Value.member?]
  induction fields with
  | nil => rfl
  | cons f fields ih =>
    rw [List.map_cons, Entries.value?, ih]
    by_cases h : f.1 = name
    · simp [h]
    · have ht : Text.ofString f.1 ≠ Text.ofString name := fun ht => h (Text.ofString_injective ht)
      simp [h, ht]

/-- What is written for a token is read back. -/
theorem Token.read?_toValue (t : Token) : Token.read? t.toValue = some t := by
  simp [Token.read?, Token.toValue, member?_record]

theorem Proof.read?_toValue {p : Proof} {v : Value} (h : p.toValue = .ok v) :
    Proof.read? v = some p := by
  obtain ⟨requestHash, entropy, height, servicer, blockchain, token, signature⟩ := p
  cases token with
  | none => cases h
  | some token =>
    obtain rfl := Except.ok.inj h
    simp [Proof.read?, member?_record, Token.read?_toValue]

namespace HttpProvider

variable {p : HttpProvider} {transport : Transport} {h : Handover} {url : Text} {body : Bytes}

/-- A relay that has a URL and canonical bytes is posted once, whatever becomes of it. -/
theorem sent_relay (hu : relayUrl h.url = .ok url)
    (hb : h.input.toValue >>= canonicalBytes = .ok body) : (p.relay transport h).sent =
      [.posted url body (p.headers h.options) (p.timeoutFor h.options)] := by
  rw [relay, hu, hb]
  cases transport with
  | error f => rfl
  | ok response => rfl

theorem of_mem_sent {headers : Entries} {timeout : Value}
    (hm : .posted url body headers timeout ∈ (p.relay transport h).sent) :
    relayUrl h.url = .ok url ∧ h.input.toValue >>= canonicalBytes = .ok body := by
  cases hu : relayUrl h.url with
  | error f =>
    rw [relay, hu] at hm
    cases hm
  | ok url' =>
  cases hb : h.input.toValue >>= canonicalBytes with
  | error f =>
    rw [relay, hu, hb] at hm
    cases hm
  | ok body' =>
    rw [sent_relay hu hb] at hm
    cases List.mem_singleton.mp hm
    exact ⟨rfl, rfl⟩

/-- A URL is the text that the node has for it, without slashes at its end, and the route. -/
theorem relayUrl_eq_ok_iff {v : Value} : relayUrl v = .ok url ↔
    ∃ t, v = .text t ∧ url = t.dropTrailing '/' ++ Text.ofString Settings.relayRoute := by
  cases v <;> simp [relayUrl, eq_comm]

end HttpProvider

theorem Relayer.Stages.signed {r : Relayer} {i : Input} {j : Journal} (s : r.Stages i j)
    (options : Option Options) : ((r.relay i options).run j).2.signed = j.signed ++ [s.digest] := by
  obtain ⟨logs, hrun⟩ := s.run options
  rw [hrun]

/-- A relay with all its stages is posted if it has a URL and canonical bytes. -/
theorem Relayer.Stages.sent {r : Relayer} {i : Input} {j : Journal} {p : HttpProvider}
    {transport : Transport} {url : Text} {body : Bytes} (s : r.Stages i j)
    (hp : s.provider = p.toProvider transport)
    (hu : HttpProvider.relayUrl s.node.serviceUrl = .ok url)
    (hb : s.body.toValue >>= canonicalBytes = .ok body) (options : Option Options) :
    ((r.relay i options).run j).2.sent =
      j.sent ++ [.posted url body (p.headers options) (p.timeoutFor options)] := by
  obtain ⟨logs, hrun⟩ := s.run options
  rw [hrun, hp]
  exact congrArg (j.sent ++ ·) (HttpProvider.sent_relay (h := s.handover options) hu hb)

/-- A servicer reads the relay back that was written. -/
theorem Reading.ofBody?_eq {r : RelayInput} {payload v : Value} {body : Bytes}
    (hp : r.payload.toValue = .ok payload) (hv : r.toValue = .ok v) (hj : v.everywhere Json.isJson)
    (hb : canonicalBytes v = .ok body) :
    ofBody? body = some ⟨payload, r.metadata.toValue, r.proof⟩ := by
  have hparse := Json.parse?_of_encode hj (canonicalBytes_eq_ok_iff.mp hb)
  simp only [RelayInput.toValue, bind_eq_ok_iff, pure_eq_ok_iff] at hv
  obtain ⟨_, hp', proof, hproof, rfl⟩ := hv
  obtain rfl := Except.ok.inj (hp.symm.trans hp')
  simp [ofBody?, hparse, member?_record, Proof.read?_toValue hproof]

/-- A signature of a key pair is valid under the key of the pair, however the key is spelt, unless its
nonce is zero. -/
theorem KeyPair.verifySignature_sign {k : KeyPair} {key : Value} {d : Bytes}
    (hkey : decodeHex key = .ok k.publicBytes) (hnonce : Ed25519.nonce k.seed d ≠ 0) :
    verifySignature key d (.text (k.sign d)) := by
  rw [verifySignature, hkey, signatureBytes?, KeyPair.sign, Hex.decode?_encode]
  exact (Ed25519.verify_sign k.seed d).mpr hnonce

theorem KeyPair.decodeHex_publicKey (k : KeyPair) :
    decodeHex (.text k.publicKey) = .ok k.publicBytes := by
  rw [decodeHex, KeyPair.publicKey, Hex.decode?_encode]

/-- The nodes that may serve a relay. -/
def Input.servicers (i : Input) : List Node :=
  i.node.toList ++ (i.session.map (·.nodes)).getD []

theorem Input.mem_servicers_of_resolveNode {i : Input} {n : Node} {j k : Journal}
    (h : i.resolveNode.run j = (.ok n, k)) : n ∈ i.servicers := by
  obtain ⟨s, hs, ⟨hn, -⟩ | ⟨-, hn⟩⟩ := Input.of_resolveNode h
  · simp [servicers, hn]
  · simp [servicers, hs, hn]

namespace Relayer.Stages

variable {r : Relayer} {i : Input} {j : Journal} (s : r.Stages i j)

/-- The unsigned proof holds the hash of the request, at the height that is sent along. -/
theorem exists_request : ∃ headers height x,
    i.sessionHeight = .ok height ∧ sortedMap i.headers = .ok headers ∧
      canonicalHash (i.requestRecord headers height) = .ok x ∧ s.metadata = ⟨height⟩ ∧
      s.unsigned = i.proofWith s.node (.int s.entropy) height x := by
  obtain ⟨height, headers, x, hheight, hheaders, hx, hunsigned⟩ :=
    Input.unsignedProof_eq_ok_iff.mp s.buildsProof
  have hmetadata := s.hasMetadata
  rw [Input.metadata, hheight] at hmetadata
  exact ⟨headers, height, x, hheight, hheaders, hx, (Except.ok.inj hmetadata).symm, hunsigned⟩

theorem ofBody?_eq {headers : Value} {body : Bytes} (hi : i.Typed)
    (hnode : s.node.publicKey.kind = .text) (hsignature : s.signature.kind = .text)
    (hheaders : sortedMap i.headers = .ok headers)
    (hbody : s.body.toValue >>= canonicalBytes = .ok body) :
    Reading.ofBody? body = some ⟨i.payloadRecord headers, s.metadata.toValue, s.body.proof⟩ := by
  obtain ⟨-, height, -, hheight, -, -, hmetadata, -⟩ := s.exists_request
  have hproof : s.body.proof.Typed :=
    { hi.unsignedProof hnode s.buildsProof with signature := hsignature }
  have hpayload : s.body.payload.toValue = .ok (i.payloadRecord headers) :=
    Input.payload_toValue hheaders
  have hint : s.body.metadata.blockHeight.kind = .int := by
    rw [Relayer.Stages.body, hmetadata]
    exact hi.sessionHeight _ hheight
  obtain ⟨v, hv, hb⟩ := bind_eq_ok_iff.mp hbody
  have hjson := RelayInput.isJson_toValue hpayload (hi.isJson_payload hheaders) hint hproof hv
  exact Reading.ofBody?_eq hpayload hv hjson hb

theorem signature_of_keyPair {k : KeyPair} (hk : r.signer = some (.ofKeyPair k)) :
    s.signature = .text (k.sign s.digest) := by
  have hsigns := s.signs
  rw [Option.some.inj (s.hasSigner.symm.trans hk)] at hsigns
  exact (Except.ok.inj hsigns).symm

end Relayer.Stages

variable {r : Relayer} {i : Input} {p : HttpProvider} {transport : Transport}
  {options : Option Options} {draws : Draws} {url : Text} {body : Bytes} {headers : Entries}
  {timeout : Value}

/-- Whatever a relay posts can be verified by its bytes alone. The hash of the request as it is read
is the one in the proof; the digest of the proof as it is read is the one payload that was signed;
the post goes to the servicer that the proof names, at the height that the proof names; and if a key
pair signs, its signature is valid under the public key and under a token that names this key, unless
the nonce of the signature is zero. -/
theorem posted_relay_verifies (hi : i.Typed)
    (hservicers : ∀ n ∈ i.servicers, n.publicKey.kind = .text)
    (hsigner : ∀ s d v, r.signer = some s → s.sign d = .ok v → v.kind = .text)
    (hprovider : r.provider = some (p.toProvider transport))
    (hposted : .posted url body headers timeout ∈ ((r.relay i options).run { draws }).2.sent) :
    ∃ (R : Reading) (node : Node) (d : Bytes) (serviceUrl : Text),
      Reading.ofBody? body = some R ∧
      (canonicalHex R.request).map Value.text = .ok R.proof.requestHash ∧
      R.proof.digest = .ok d ∧ ((r.relay i options).run { draws }).2.signed = [d] ∧
      R.metadata.member? "block_height" = some R.proof.sessionBlockHeight ∧
      (i.resolveNode.run { draws }).1 = .ok node ∧
      R.proof.servicerPublicKey = node.publicKey ∧ node.serviceUrl = .text serviceUrl ∧
      url = serviceUrl.dropTrailing '/' ++ Text.ofString Settings.relayRoute ∧
      ∀ k : KeyPair, r.signer = some (.ofKeyPair k) →
        Ed25519.nonce k.seed d ≠ 0 →
        verifySignature (.text k.publicKey) d R.proof.signature ∧
        ∀ token, R.proof.token = some token → decodeHex token.clientPublicKey = .ok k.publicBytes →
          verifySignature token.clientPublicKey d R.proof.signature := by
  rcases hrun : (r.relay i options).run { draws } with ⟨o, k⟩
  rw [hrun] at hposted
  obtain ⟨-, hsent⟩ | ⟨s, -, hsigned, hsent⟩ := Relayer.relay_cases hrun
  · rw [hsent] at hposted
    cases hposted
  have hcalled : s.provider = p.toProvider transport :=
    Option.some.inj (s.hasProvider.symm.trans hprovider)
  rw [hsent, hcalled] at hposted
  obtain ⟨hurl, hbody⟩ := HttpProvider.of_mem_sent hposted
  obtain ⟨serviceUrl, hservice, hurl⟩ := HttpProvider.relayUrl_eq_ok_iff.mp hurl
  obtain ⟨headers', height, x, -, hheaders, hx, hmetadata, hunsigned⟩ := s.exists_request
  have hread := s.ofBody?_eq hi (hservicers _ (Input.mem_servicers_of_resolveNode s.resolves))
    (hsigner _ _ _ s.hasSigner s.signs) hheaders hbody
  refine ⟨_, s.node, s.digest, serviceUrl, hread, ?_, s.hashes, hsigned, ?_, ?_, ?_, hservice,
    hurl, ?_⟩
  · have hhex : canonicalHex (i.requestRecord headers' height) = .ok (Hex.encode x) :=
      canonicalHex_eq_ok_iff.mpr ⟨x, hx, rfl⟩
    rw [Reading.request, Relayer.Stages.body, hmetadata, hunsigned]
    exact congrArg (Except.map Value.text) hhex
  · rw [Relayer.Stages.body, hmetadata, hunsigned]
    simp [Metadata.toValue, member?_record, Input.proofWith]
  · rw [s.resolves]
  · rw [Relayer.Stages.body, hunsigned, Input.proofWith]
  · intro k hk hnonce
    have hsignature : s.body.proof.signature = .text (k.sign s.digest) :=
      s.signature_of_keyPair hk
    rw [hsignature]
    exact ⟨KeyPair.verifySignature_sign k.decodeHex_publicKey hnonce,
      fun token _ hkey => KeyPair.verifySignature_sign hkey hnonce⟩

/-- A key pair, and a relay that it signs for one of two nodes. -/
def sampleKey : KeyPair := ⟨List.replicate 32 7⟩

def sampleRelayer : Relayer :=
  ⟨some (.ofKeyPair sampleKey), some (HttpProvider.toProvider {} (.error (.connection "refused")))⟩

def sampleNode : Node where
  publicKey := "ee"
  serviceUrl := "http://x//"

def sampleToken : Token where
  version := "0.0.1"
  clientPublicKey := .text sampleKey.publicKey

def sampleInput : Input where
  blockchain := "0021"
  data := "\"<\x08\\u2028\""
  method := "POST"
  session := some {
    header := some { sessionHeight := .int 7 }
    nodes := [sampleNode, { publicKey := "ff" }] }
  token := some sampleToken

private theorem sampleInput_typed : sampleInput.Typed where
  blockchain := rfl
  data := rfl
  method := rfl
  path := rfl
  headers := rfl
  token := by rintro _ ⟨⟩; exact ⟨rfl, rfl, rfl, rfl⟩
  sessionHeight := by rintro _ ⟨⟩; rfl

def sampleRequestHash : Bytes := Sha3.hash (GoJson.encode (sampleInput.requestRecord .null (.int 7)))

def sampleTokenHash : Bytes := Sha3.hash (GoJson.encode sampleToken.unsigned.toValue)

def sampleProof : Proof := sampleInput.proofWith sampleNode (.int 9) (.int 7) sampleRequestHash

def sampleDigest : Bytes := Sha3.hash (GoJson.encode (sampleProof.signableRecord sampleTokenHash))

/-- The relay of the sample is signed and posted. -/
theorem sample_posted : (∃ url body headers timeout, .posted url body headers timeout ∈
    ((sampleRelayer.relay sampleInput none).run { draws := .ofList [4, 9] }).2.sent) ∧
    ((sampleRelayer.relay sampleInput none).run { draws := .ofList [4, 9] }).2.signed =
      [sampleDigest] := by
  have hx : canonicalHash (sampleInput.requestRecord .null (.int 7)) = .ok sampleRequestHash :=
    canonicalHash_of_isWritable (by decide +kernel)
  have htoken : sampleToken.toValue.everywhere GoJson.isWritable := by
    refine isWritable_record ?_
    simp only [List.forall_mem_cons, List.not_mem_nil, false_imp_iff, implies_true, and_true]
    exact ⟨rfl, rfl, isWritable_hex _, rfl⟩
  have hy : canonicalHash sampleToken.unsigned.toValue = .ok sampleTokenHash :=
    canonicalHash_of_isWritable htoken
  have hentropy : (Value.int 9).everywhere GoJson.isWritable := by decide +kernel
  have hheight : (Value.int 7).everywhere GoJson.isWritable := by decide +kernel
  have hd : canonicalHash (sampleProof.signableRecord sampleTokenHash) = .ok sampleDigest := by
    refine canonicalHash_of_isWritable (Proof.isWritable_signable ?_ _)
    simp only [List.forall_mem_cons, List.not_mem_nil, false_imp_iff, implies_true, and_true]
    exact ⟨hentropy, hheight, rfl, rfl, isWritable_hex _⟩
  let document : Value := .record [
    ("payload", sampleInput.payloadRecord .null),
    ("meta", Metadata.toValue ⟨.int 7⟩),
    ("proof", .record [
      ("request_hash", .text (Hex.encode sampleRequestHash)),
      ("entropy", .int 9),
      ("session_block_height", .int 7),
      ("servicer_pub_key", sampleNode.publicKey),
      ("blockchain", sampleInput.blockchain),
      ("aat", sampleToken.toValue),
      ("signature", .text (sampleKey.sign sampleDigest))])]
  have hdocument : document.everywhere GoJson.isWritable := by
    have hpayload : (sampleInput.payloadRecord .null).everywhere GoJson.isWritable := by
      decide +kernel
    have hmetadata : (Metadata.toValue ⟨.int 7⟩).everywhere GoJson.isWritable := by decide +kernel
    refine isWritable_record ?_
    simp only [List.forall_mem_cons, List.not_mem_nil, false_imp_iff, implies_true, and_true]
    refine ⟨hpayload, hmetadata, isWritable_record ?_⟩
    simp only [List.forall_mem_cons, List.not_mem_nil, false_imp_iff, implies_true, and_true]
    exact ⟨isWritable_hex _, hentropy, hheight, rfl, rfl, htoken, isWritable_hex _⟩
  let stages : sampleRelayer.Stages sampleInput { draws := .ofList [4, 9] } := {
    signer := .ofKeyPair sampleKey
    provider := HttpProvider.toProvider {} (.error (.connection "refused"))
    node := sampleNode
    draws := _
    entropy := 9
    unsigned := sampleProof
    digest := sampleDigest
    signature := .text (sampleKey.sign sampleDigest)
    metadata := ⟨.int 7⟩
    hasSigner := rfl
    hasProvider := rfl
    resolves := rfl
    drawsEntropy := rfl
    buildsProof := Input.unsignedProof_eq_ok_iff.mpr ⟨_, _, _, rfl, rfl, hx, rfl⟩
    hashes := Proof.digest_eq_ok_iff.mpr ⟨_, _, rfl, hy, hd⟩
    signs := rfl
    hasMetadata := rfl }
  have hvalue : stages.body.toValue = .ok document := rfl
  have hbytes : stages.body.toValue >>= canonicalBytes = .ok (GoJson.encode document) := by
    rw [hvalue, ok_bind]
    exact canonicalBytes_eq_ok_iff.mpr (encode_of_isWritable hdocument)
  have hdigest : stages.digest = sampleDigest := by dsimp only [stages]
  rw [stages.sent rfl rfl hbytes none, stages.signed none, hdigest]
  exact ⟨⟨_, _, _, _, List.mem_singleton_self _⟩, List.nil_append _⟩

theorem nonce_sampleDigest : Ed25519.nonce sampleKey.seed sampleDigest ≠ 0 := by decide +kernel

/-- The relay of the sample is posted, and its signature holds. -/
theorem posted_relay_verifies_sample :
    ∃ (body : Bytes) (R : Reading), Reading.ofBody? body = some R ∧
      R.proof.digest = .ok sampleDigest ∧
      verifySignature (.text sampleKey.publicKey) sampleDigest R.proof.signature := by
  obtain ⟨⟨url, body, headers, timeout, hposted⟩, hsigned⟩ := sample_posted
  obtain ⟨R, node, d, -, hR, -, hd, hsigned', -, -, -, -, -, hkey⟩ :=
    posted_relay_verifies sampleInput_typed (by decide) (by rintro _ d v ⟨⟩ ⟨⟩; rfl) rfl hposted
  obtain rfl : sampleDigest = d := List.singleton_inj.mp (hsigned.symm.trans hsigned')
  exact ⟨body, R, hR, hd, (hkey sampleKey rfl nonce_sampleDigest).1⟩

end RelayClient
