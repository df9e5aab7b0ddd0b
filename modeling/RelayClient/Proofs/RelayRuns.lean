import RelayClient.Proofs.RelayCourse

/-!
# The stages of a relay

A relay comes to its provider through a row of stages, each of which has to succeed. Either all of
them do, or the provider is not called and nothing is sent.
-/
namespace RelayClient

open Relaying

variable {i : Input} {j k : Journal}

theorem Session.mem_of_randomNode {s : Session} {n : Node}
    (h : s.randomNode.run j = (.ok n, k)) : n ∈ s.nodes := by
  unfold randomNode at h
  cases hindex : (j.draws.below s.nodes.length).1 with
  | error f =>
    rw [run_bind_of_error (run_draw hindex)] at h
    cases h
  | ok index =>
    rw [run_bind_of_ok (run_draw hindex)] at h
    split at h
    · rename_i hget
      cases h
      exact List.mem_of_getElem? hget
    · cases h

/-- A node that may serve an input: the caller's, if the session has a node of the same key, or else a
node of the session. -/
def Input.IsServedBy (i : Input) (n : Node) : Prop :=
  ∃ s, i.session = some s ∧
    ((i.node = some n ∧ s.hasNode n) ∨ (i.node = none ∧ n ∈ s.nodes))

theorem Input.of_resolveNode {n : Node} (h : i.resolveNode.run j = (.ok n, k)) :
    i.IsServedBy n := by
  unfold resolveNode at h
  split at h
  · cases h
  · rename_i s hsession hnode
    exact ⟨s, hsession, .inr ⟨hnode, Session.mem_of_randomNode h⟩⟩
  · rename_i s m hsession hnode
    split at h
    · rename_i hhas
      cases h
      exact ⟨s, hsession, .inl ⟨hnode, hhas⟩⟩
    · cases h

/-- Either there is no digest and the signer is not called, or it is called once, with the digest of
the unsigned proof, and its answer completes the proof. -/
theorem buildSignedProof_cases {signer : Signer} {node : Option Node} {entropy : Value}
    {o : Except Fault Proof} (h : (buildSignedProof (some signer) node i entropy).run j = (o, k)) :
    (k = j ∧ ∃ f, o = .error f ∧ i.digested node entropy = .error f) ∨
    ∃ p d, i.unsignedProof node entropy = .ok p ∧ p.digest = .ok d ∧
      k = { j with signed := j.signed ++ [d] } ∧
      o = (signer.sign d).map fun signature => { p with signature } := by
  rw [run_buildSignedProof] at h
  cases hdigested : i.digested node entropy with
  | error f =>
    rw [hdigested] at h
    cases h
    exact .inl ⟨rfl, f, rfl, rfl⟩
  | ok a =>
    rw [hdigested] at h
    cases h
    obtain ⟨hp, hd⟩ := Input.digested_eq_ok_iff.mp hdigested
    exact .inr ⟨_, _, hp, hd, rfl, rfl⟩

/-- Every stage of a relay up to the call of its provider, with what it came to. -/
structure Relayer.Stages (r : Relayer) (i : Input) (j : Journal) where
  signer : Signer
  provider : Provider
  node : Node
  draws : Draws
  entropy : Int
  unsigned : Proof
  digest : Bytes
  signature : Value
  metadata : Metadata
  hasSigner : r.signer = some signer
  hasProvider : r.provider = some provider
  resolves : i.resolveNode.run j = (.ok node, { j with draws })
  drawsEntropy : (draws.below entropyBound).1 = .ok entropy
  buildsProof : i.unsignedProof (some node) (.int entropy) = .ok unsigned
  hashes : unsigned.digest = .ok digest
  signs : signer.sign digest = .ok signature
  hasMetadata : i.metadata = .ok metadata

namespace Relayer

variable {r : Relayer}

def Stages.body (s : r.Stages i j) : RelayInput :=
  ⟨i.payload, s.metadata, { s.unsigned with signature := s.signature }⟩

def Stages.handover (s : r.Stages i j) (options : Option Options) : Handover :=
  ⟨s.node.serviceUrl, s.body, options⟩

theorem Stages.passed (s : r.Stages i j) : r.failedPrecondition? i = none := by
  obtain ⟨session, hsession, hnode⟩ := Input.of_resolveNode s.resolves
  have hnodes : session.nodes.isEmpty = false := by
    obtain ⟨-, hhas⟩ | ⟨-, hmem⟩ := hnode
    · obtain ⟨m, hm, -⟩ := List.any_eq_true.mp hhas
      exact List.isEmpty_eq_false_iff.mpr (List.ne_nil_of_mem hm)
    · exact List.isEmpty_eq_false_iff.mpr (List.ne_nil_of_mem hmem)
  have hheader : session.header.isNone = false := by
    have hmetadata := s.hasMetadata
    rw [Input.metadata, Input.sessionHeight, hsession] at hmetadata
    cases hh : session.header with
    | some header => rfl
    | none =>
      simp only [hh] at hmetadata
      cases hmetadata
  have htoken : i.token.isNone = false := by
    have hhashes := s.hashes
    rw [Proof.digest, Proof.signable, token_of_unsignedProof s.buildsProof] at hhashes
    cases ht : i.token with
    | some token => rfl
    | none =>
      rw [ht] at hhashes
      cases hhashes
  simp [failedPrecondition?, s.hasSigner, s.hasProvider, hsession, hnodes, hheader, htoken]

/-- With all stages the provider is called, and its answer is the answer of the relay. -/
theorem Stages.run (s : r.Stages i j) (options : Option Options) :
    ∃ logs, (r.relay i options).run j =
      ((s.provider.relay (s.handover options)).outcome.map fun answer =>
        ⟨answer, s.body.proof, s.node⟩,
      { draws := (s.draws.below entropyBound).2
        signed := j.signed ++ [s.digest]
        handed := j.handed ++ [s.handover options]
        sent := j.sent ++ (s.provider.relay (s.handover options)).sent
        logs }) := by
  obtain ⟨P⟩ := exists_passed s.passed
  have hsigner : P.signer = s.signer := Option.some.inj (P.hasSigner.symm.trans s.hasSigner)
  have hprovider : P.provider = s.provider :=
    Option.some.inj (P.hasProvider.symm.trans s.hasProvider)
  have hresolves := Input.run_resolveNode (j := j) P.hasSession P.hasNodes
  obtain ⟨hnode, hjournal⟩ := Prod.mk.inj (hresolves.symm.trans s.resolves)
  have hdraws : s.draws = j.draws.spend i.nodeBounds := (congrArg Journal.draws hjournal).symm
  have hbelow := s.draws.below_of_pos entropyBound_pos
  have hentropy : s.entropy = i.entropyAt j.draws := by
    have hdrawn := s.drawsEntropy
    rw [hbelow, hdraws] at hdrawn
    exact (Except.ok.inj hdrawn).symm
  have hserve : i.serve P.signer P.provider options s.node s.entropy =
      s.provider.serve s.digest (s.handover options) s.node := by
    have hdigested := Input.digested_eq_ok_iff.mpr ⟨s.buildsProof, s.hashes⟩
    obtain ⟨_, _, -, hproof, -⟩ := Input.of_unsignedProof s.buildsProof
    have hmetadata : s.metadata = ⟨s.unsigned.sessionBlockHeight⟩ :=
      Except.ok.inj (s.hasMetadata.symm.trans hproof)
    simp only [Input.serve, hdigested, hsigner, s.signs, hprovider, handover, body, hmetadata,
      Input.handover]
  rw [P.run_relay hnode, ← hentropy, hserve, hbelow, hdraws, ← Draws.spend_append]
  exact ⟨_, rfl⟩

theorem exists_stages {options : Option Options} {o : Except Fault Output}
    (h : (r.relay i options).run j = (o, k)) :
    (k.handed = j.handed ∧ k.sent = j.sent) ∨ Nonempty (r.Stages i j) := by
  cases hpassed : r.failedPrecondition? i with
  | some p =>
    rw [run_relay_of_failed hpassed] at h
    cases h
    exact .inl ⟨rfl, rfl⟩
  | none =>
  obtain ⟨P⟩ := exists_passed hpassed
  cases hnode : i.nodeAt j.draws with
  | error f =>
    rw [P.run_relay_of_error hnode] at h
    cases h
    exact .inl ⟨rfl, rfl⟩
  | ok node =>
  rw [P.run_relay hnode] at h
  cases hdigested : i.digested (some node) (.int (i.entropyAt j.draws)) with
  | error f =>
    simp only [Input.serve, hdigested] at h
    cases h
    exact .inl ⟨List.append_nil _, List.append_nil _⟩
  | ok a =>
  obtain ⟨unsigned, digest⟩ := a
  cases hsign : P.signer.sign digest with
  | error f =>
    simp only [Input.serve, hdigested, hsign] at h
    cases h
    exact .inl ⟨List.append_nil _, List.append_nil _⟩
  | ok signature =>
    obtain ⟨hunsigned, hdigest⟩ := Input.digested_eq_ok_iff.mp hdigested
    obtain ⟨_, _, -, hmetadata, -⟩ := Input.of_unsignedProof hunsigned
    exact .inr ⟨{
      signer := P.signer
      provider := P.provider
      node, unsigned, digest, signature
      draws := j.draws.spend i.nodeBounds
      entropy := i.entropyAt j.draws
      metadata := ⟨unsigned.sessionBlockHeight⟩
      hasSigner := P.hasSigner
      hasProvider := P.hasProvider
      resolves := by rw [Input.run_resolveNode P.hasSession P.hasNodes, hnode]
      drawsEntropy := congrArg Prod.fst (Draws.below_of_pos _ entropyBound_pos)
      buildsProof := hunsigned
      hashes := hdigest
      signs := hsign
      hasMetadata := hmetadata }⟩

/-- Either the provider is not called and nothing is sent, or all stages succeed and it is called
once, with a body signed by the only call of the signer. -/
theorem relay_cases {options : Option Options} {o : Except Fault Output}
    (h : (r.relay i options).run j = (o, k)) :
    (k.handed = j.handed ∧ k.sent = j.sent) ∨
    ∃ s : r.Stages i j, k.handed = j.handed ++ [s.handover options] ∧
      k.signed = j.signed ++ [s.digest] ∧
      k.sent = j.sent ++ (s.provider.relay (s.handover options)).sent := by
  rcases exists_stages h with hq | ⟨⟨s⟩⟩
  · exact .inl hq
  · obtain ⟨logs, hrun⟩ := s.run options
    cases hrun.symm.trans h
    exact .inr ⟨s, rfl, rfl, rfl⟩

end Relayer
end RelayClient
