import RelayClient.Proofs.RelayRecords
import RelayClient.Proofs.RelayRuns

/-!
# What a signed digest commits to

A digest is the hash of a document that holds two more hashes, of the request and of the token.
Equal digests therefore come from equal relays, unless two different documents have the same hash.
-/
namespace RelayClient

/-- One run of the building of a proof. -/
structure Signing where
  input : Input
  node : Node
  entropy : Int
  signer : Signer
  journal : Journal

/-- Two documents with different canonical bytes and the same hash. -/
def Collide (v w : Except Fault Value) : Prop :=
  ∃ a b, v >>= canonicalBytes = .ok a ∧ w >>= canonicalBytes = .ok b ∧
    a ≠ b ∧ Sha3.hash a = Sha3.hash b

namespace Signing

structure Typed (s : Signing) : Prop where
  input : s.input.Typed
  servicer : s.node.publicKey.kind = .text

def Reaches (s : Signing) (d : Bytes) : Prop :=
  ((buildSignedProof (some s.signer) (some s.node) s.input (.int s.entropy)).run
    s.journal).2.signed = s.journal.signed ++ [d]

/-- The three documents that are hashed on the way. -/
def requestDocument (s : Signing) : Except Fault Value := do
  Request.toValue ⟨s.input.payload, ← s.input.metadata⟩

def tokenDocument (s : Signing) : Except Fault Value :=
  match s.input.token with
  | none => throw (.noAttribute .null "unsigned")
  | some token => return token.unsigned.toValue

def proofDocument (s : Signing) : Except Fault Value := do
  (← s.input.unsignedProof (some s.node) (.int s.entropy)).signable

/-- Two runs agree on the relay: the request, the place of the session, the servicer, the entropy
and the token without its signature. -/
structure SameRelay (s t : Signing) : Prop where
  blockchain : s.input.blockchain = t.input.blockchain
  data : s.input.data = t.input.data
  method : s.input.method = t.input.method
  path : s.input.path = t.input.path
  headers : SameHeaders s.input.headers t.input.headers
  sessionHeight : s.input.sessionHeight = t.input.sessionHeight
  servicer : s.node.publicKey = t.node.publicKey
  entropy : s.entropy = t.entropy
  token : s.input.token.map Token.unsigned = t.input.token.map Token.unsigned

end Signing

theorem eq_or_collide {v w : Value} {x : Bytes} (hv : v.everywhere Json.isJson)
    (hw : w.everywhere Json.isJson) (hvx : canonicalHash v = .ok x)
    (hwx : canonicalHash w = .ok x) : v = w ∨ Collide (.ok v) (.ok w) := by
  obtain ⟨a, ha, hax⟩ := canonicalHash_eq_ok_iff.mp hvx
  obtain ⟨b, hb, hbx⟩ := canonicalHash_eq_ok_iff.mp hwx
  by_cases hab : a = b
  · subst hab
    exact .inl (Json.eq_of_encode hv hw (canonicalBytes_eq_ok_iff.mp ha)
      (canonicalBytes_eq_ok_iff.mp hb))
  · exact .inr ⟨a, b, ha, hb, hab, hax.trans hbx.symm⟩

namespace Signing

variable {s t : Signing} {d : Bytes}

/-- What is hashed when the signer is called with a payload. -/
structure Documents (s : Signing) (d : Bytes) where
  token : Token
  height : Value
  headers : Value
  tokenHash : Bytes
  requestHash : Bytes
  hasToken : s.input.token = some token
  hasHeight : s.input.sessionHeight = .ok height
  sortsHeaders : sortedMap s.input.headers = .ok headers
  hashesToken : canonicalHash token.unsigned.toValue = .ok tokenHash
  hashesRequest : canonicalHash (s.input.requestRecord headers height) = .ok requestHash
  hashesProof : canonicalHash ((s.input.proofWith s.node (.int s.entropy) height
    requestHash).signableRecord tokenHash) = .ok d

theorem exists_documents (h : s.Reaches d) : Nonempty (s.Documents d) := by
  rcases hrun : (buildSignedProof (some s.signer) (some s.node) s.input (.int s.entropy)).run
    s.journal with ⟨o, k⟩
  rw [Reaches, hrun] at h
  obtain ⟨rfl, -⟩ | ⟨p, d', hp, hd, rfl, -⟩ := buildSignedProof_cases hrun
  · simp at h
  obtain rfl : d' = d := by simpa using h
  obtain ⟨height, headers, q, hheight, hheaders, hq, rfl⟩ := Input.unsignedProof_eq_ok_iff.mp hp
  obtain ⟨token, x, htoken, hx, hd⟩ := Proof.digest_eq_ok_iff.mp hd
  exact ⟨⟨token, height, headers, x, q, htoken, hheight, hheaders, hx, hq, hd⟩⟩

variable (D : s.Documents d)

theorem Documents.requestDocument_eq :
    s.requestDocument = .ok (s.input.requestRecord D.headers D.height) := by
  rw [requestDocument, Input.metadata, D.hasHeight]
  exact Input.request_toValue D.sortsHeaders

theorem Documents.tokenDocument_eq : s.tokenDocument = .ok D.token.unsigned.toValue := by
  rw [tokenDocument, D.hasToken]
  rfl

def Documents.unsigned : Proof :=
  s.input.proofWith s.node (.int s.entropy) D.height D.requestHash

theorem Documents.unsignedProof_eq :
    s.input.unsignedProof (some s.node) (.int s.entropy) = .ok D.unsigned :=
  Input.unsignedProof_eq_ok_iff.mpr
    ⟨_, _, _, D.hasHeight, D.sortsHeaders, D.hashesRequest, rfl⟩

theorem Documents.proofDocument_eq :
    s.proofDocument = .ok (D.unsigned.signableRecord D.tokenHash) := by
  rw [proofDocument, D.unsignedProof_eq, ok_bind]
  exact Proof.signable_eq_ok_iff.mpr ⟨_, _, D.hasToken, D.hashesToken, rfl⟩

include D in
theorem Documents.reaches : s.Reaches d := by
  have hdigest : D.unsigned.digest = .ok d :=
    Proof.digest_eq_ok_iff.mpr ⟨_, _, D.hasToken, D.hashesToken, D.hashesProof⟩
  rw [Reaches, run_buildSignedProof,
    Input.digested_eq_ok_iff.mpr ⟨D.unsignedProof_eq, hdigest⟩]

private theorem isJson_signable (h : s.Typed) :
    (D.unsigned.signableRecord D.tokenHash).everywhere Json.isJson := by
  refine Json.isJson_record (by simp) ?_
  simp only [List.forall_mem_cons, List.not_mem_nil, false_imp_iff, implies_true, and_true]
  exact ⟨rfl, Json.isJson_of_kind (.inr (h.input.sessionHeight _ D.hasHeight)),
    Json.isJson_of_kind (.inl h.servicer), Json.isJson_of_kind (.inl h.input.blockchain),
    rfl, rfl, rfl⟩

private theorem toValue_injective {t u : Token} (h : t.toValue = u.toValue) : t = u := by
  simp only [Token.toValue, Value.record, List.map_cons, List.map_nil, Value.object.injEq,
    List.cons.injEq, Prod.mk.injEq, true_and, and_true] at h
  obtain ⟨hversion, happ, hclient, hsignature⟩ := h
  cases t
  cases u
  subst hversion happ hclient hsignature
  rfl

variable {e : Bytes}

theorem SameRelay.digest_eq (h : SameRelay s t) (hs : s.Typed) (ht : t.Typed)
    (D : s.Documents d) (E : t.Documents e) : d = e := by
  have hheight : D.height = E.height :=
    Except.ok.inj (D.hasHeight.symm.trans (h.sessionHeight.trans E.hasHeight))
  have hheaders : D.headers = E.headers := by
    have hsort := (sortedMap_eq_iff hs.input.headers ht.input.headers).mpr h.headers
    exact Except.ok.inj (D.sortsHeaders.symm.trans (hsort.trans E.sortsHeaders))
  have htoken : D.token.unsigned = E.token.unsigned := by
    have hmap := h.token
    rw [D.hasToken, E.hasToken] at hmap
    exact Option.some.inj hmap
  have htokenHash : D.tokenHash = E.tokenHash := by
    have hhash := D.hashesToken
    rw [htoken] at hhash
    exact Except.ok.inj (hhash.symm.trans E.hashesToken)
  have hrequestHash : D.requestHash = E.requestHash := by
    have hhash := D.hashesRequest
    rw [Input.requestRecord, Input.payloadRecord, h.data, h.method, h.path, hheaders,
      hheight] at hhash
    exact Except.ok.inj (hhash.symm.trans E.hashesRequest)
  have hhash := D.hashesProof
  rw [Proof.signableRecord, Input.proofWith, h.entropy, hheight, h.servicer, h.blockchain,
    htokenHash, hrequestHash] at hhash
  exact Except.ok.inj (hhash.symm.trans E.hashesProof)

/-- Relays with the same digest are the same, or documents of theirs collide. -/
theorem sameRelay_or_collide (hs : s.Typed) (ht : t.Typed) (D : s.Documents d)
    (E : t.Documents d) :
    SameRelay s t ∨ Collide s.requestDocument t.requestDocument ∨
      Collide s.tokenDocument t.tokenDocument ∨ Collide s.proofDocument t.proofDocument := by
  rw [D.requestDocument_eq, E.requestDocument_eq, D.tokenDocument_eq, E.tokenDocument_eq,
    D.proofDocument_eq, E.proofDocument_eq]
  obtain hproof | hc := eq_or_collide (isJson_signable D hs) (isJson_signable E ht)
    D.hashesProof E.hashesProof
  case inr => exact .inr (.inr (.inr hc))
  simp only [Proof.signableRecord, Documents.unsigned, Input.proofWith, Value.record, List.map_cons,
    List.map_nil, Value.object.injEq, List.cons.injEq, Prod.mk.injEq, true_and, and_true,
    Value.int.injEq, Value.text.injEq] at hproof
  obtain ⟨hentropy, hheight, hservicer, hblockchain, htokenHash, hrequestHash⟩ := hproof
  have htoken := D.hashesToken
  rw [Hex.encode_injective htokenHash] at htoken
  obtain htoken | hc := eq_or_collide (hs.input.token _ D.hasToken).unsigned.isJson_toValue
    (ht.input.token _ E.hasToken).unsigned.isJson_toValue htoken E.hashesToken
  case inr => exact .inr (.inr (.inl hc))
  have hrequest := D.hashesRequest
  rw [Hex.encode_injective hrequestHash] at hrequest
  obtain hrequest | hc := eq_or_collide (hs.input.isJson_request D.sortsHeaders D.hasHeight)
    (ht.input.isJson_request E.sortsHeaders E.hasHeight) hrequest E.hashesRequest
  case inr => exact .inr (.inl hc)
  simp only [Input.requestRecord, Input.payloadRecord, Value.record, List.map_cons, List.map_nil,
    Value.object.injEq, List.cons.injEq, Prod.mk.injEq, true_and, and_true] at hrequest
  obtain ⟨⟨hdata, hmethod, hpath, hheaders⟩, -⟩ := hrequest
  refine .inl {
    blockchain := hblockchain
    data := hdata
    method := hmethod
    path := hpath
    headers := (sortedMap_eq_iff hs.input.headers ht.input.headers).mp ?_
    sessionHeight := ?_
    servicer := hservicer
    entropy := hentropy
    token := ?_ }
  · rw [D.sortsHeaders, E.sortsHeaders, hheaders]
  · rw [D.hasHeight, E.hasHeight, hheight]
  · rw [D.hasToken, E.hasToken, Option.map_some, Option.map_some, toValue_injective htoken]

/-- The digest that reaches a signer commits to the relay and to nothing else. -/
theorem digest_commits (hs : s.Typed) (ht : t.Typed) (hd : s.Reaches d) (he : t.Reaches e) :
    (SameRelay s t → d = e) ∧
    (d = e → SameRelay s t ∨ Collide s.requestDocument t.requestDocument ∨
      Collide s.tokenDocument t.tokenDocument ∨ Collide s.proofDocument t.proofDocument) := by
  obtain ⟨D⟩ := exists_documents hd
  obtain ⟨E⟩ := exists_documents he
  refine ⟨fun h => h.digest_eq hs ht D E, ?_⟩
  rintro rfl
  exact sameRelay_or_collide hs ht D E

/-- Two relays whose headers, token signatures and servicer's URLs differ. -/
def sample (other : Bool) : Signing where
  input := {
    blockchain := "0021"
    data := "\\u003c\x08"
    headers := some (if other then [("b", "1"), ("a", "2")] else [("a", "2"), ("b", "1")])
    method := "POST"
    path := "/v1"
    session := some { header := some { sessionHeight := .int 7 } }
    token := some {
      version := "0.0.1"
      appPublicKey := "aa"
      clientPublicKey := "cc"
      signature := if other then "s" else "t" } }
  node := { publicKey := "ee", serviceUrl := if other then "http://x" else "http://y" }
  entropy := 1 <<< 62
  signer := .fixed (.bool other)
  journal := { draws := .ofList [] }

private theorem sample_typed (other : Bool) : (sample other).Typed where
  input := {
    blockchain := rfl
    data := rfl
    method := rfl
    path := rfl
    headers := by cases other <;> decide
    token := by rintro _ ⟨⟩; cases other <;> exact ⟨rfl, rfl, rfl, rfl⟩
    sessionHeight := by rintro _ ⟨⟩; rfl }
  servicer := rfl

private theorem sample_reaches (other : Bool) : ∃ d, (sample other).Reaches d := by
  have hsort : sortedMap (sample other).input.headers =
      .ok (.object [("a", "2"), ("b", "1")]) := by
    cases other <;>
    exact sortedMap_of_pairwise (by decide) (by decide) (by simp [or_comm]) (by decide)
  refine ⟨_, Documents.reaches {
    token := _
    height := _
    headers := _
    tokenHash := _
    requestHash := _
    hasToken := rfl
    hasHeight := rfl
    sortsHeaders := hsort
    hashesToken := canonicalHash_of_isWritable ?_
    hashesRequest := canonicalHash_of_isWritable ?_
    hashesProof := canonicalHash_of_isWritable ?_ }⟩
  · cases other <;> decide +kernel
  · cases other <;> decide +kernel
  · have hentropy : (Value.int (1 <<< 62)).everywhere GoJson.isWritable := by decide +kernel
    have hheight : (Value.int 7).everywhere GoJson.isWritable := by decide +kernel
    refine Proof.isWritable_signable ?_ _
    simp only [List.forall_mem_cons, List.not_mem_nil, false_imp_iff, implies_true, and_true]
    exact ⟨hentropy, hheight, rfl, rfl, isWritable_hex _⟩

/-- The order of headers, the token's signature, the servicer's URL and the signer do not count. -/
theorem digest_commits_reordered :
    ∃ d e, (sample true).Reaches d ∧ (sample false).Reaches e ∧ d = e := by
  obtain ⟨d, hd⟩ := sample_reaches true
  obtain ⟨e, he⟩ := sample_reaches false
  refine ⟨d, e, hd, he, (digest_commits (sample_typed true) (sample_typed false) hd he).1 ?_⟩
  exact {
    blockchain := rfl
    data := rfl
    method := rfl
    path := rfl
    headers := by simp [SameHeaders, sample, or_comm]
    sessionHeight := rfl
    servicer := by simp only [sample]
    entropy := rfl
    token := rfl }

end Signing
end RelayClient
