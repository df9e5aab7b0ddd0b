import RelayClient.Proofs.Outcomes
import RelayClient.Relayer

/-!
# The course of a relay

Behind its preconditions a relay is settled by its input and by the numbers that it draws. They lead
to a node and to an entropy. What follows draws nothing more, so that it is a function of these two.
-/
namespace RelayClient

open Relaying

namespace Draws

variable (d : Draws)

/-- What a draw comes to that has so many others before it. -/
def answer (ahead : Nat) (bound : Int) : Int := (d.source (d.used + ahead) : Int) % bound

/-- The draws that are left when numbers below these bounds have been drawn. -/
def spend (bounds : List Int) : Draws := ⟨d.source, d.used + bounds.length, d.asked ++ bounds⟩

@[simp] theorem spend_nil : d.spend [] = d := by simp [spend]

theorem spend_append (a b : List Int) : d.spend (a ++ b) = (d.spend a).spend b := by
  simp [spend, Nat.add_assoc]

theorem below_of_pos {bound : Int} (h : 0 < bound) :
    d.below bound = (.ok (d.answer 0 bound), d.spend [bound]) := by
  simp [below, Int.not_le.mpr h, answer, spend]

theorem answer_mem_range (ahead : Nat) {bound : Int} (h : 0 < bound) :
    0 ≤ d.answer ahead bound ∧ d.answer ahead bound < bound :=
  ⟨Int.emod_nonneg _ (by omega), Int.emod_lt_of_pos _ h⟩

end Draws

theorem entropyBound_pos : 0 < entropyBound := by decide

theorem Session.length_nodes_pos (s : Session) (h : s.nodes.isEmpty = false) :
    (0 : Int) < s.nodes.length :=
  Int.natCast_pos.mpr (List.length_pos_iff.mpr (List.isEmpty_eq_false_iff.mp h))

namespace Input

/-- The bounds of the draws that settle a node: one that is given needs none. -/
def nodeBounds (i : Input) : List Int :=
  match i.session, i.node with
  | some session, none => [session.nodes.length]
  | _, _ => []

def bounds (i : Input) : List Int := i.nodeBounds ++ [entropyBound]

def nodeAt (i : Input) (d : Draws) : Except Fault Node :=
  match i.session, i.node with
  | none, _ => .error (.noAttribute .null "nodes")
  | some session, none =>
    match session.nodes[(d.answer 0 session.nodes.length).toNat]? with
    | some node => .ok node
    | none => .error (.noPosition .tuple)
  | some session, some node =>
    if session.hasNode node then .ok node else .error (.precondition .nodeNotInSession)

def entropyAt (i : Input) (d : Draws) : Int := d.answer i.nodeBounds.length entropyBound

variable {i : Input} {s : Session} {j : Journal}

/-- Settling on a node takes the draws that are needed for it and does nothing else. -/
theorem run_resolveNode (hs : i.session = some s) (hn : s.nodes.isEmpty = false) :
    i.resolveNode.run j =
      (i.nodeAt j.draws, { j with draws := j.draws.spend i.nodeBounds }) := by
  cases hnode : i.node with
  | some node =>
    simp only [resolveNode, nodeAt, nodeBounds, hs, hnode, Draws.spend_nil]
    split
    · rfl
    · rfl
  | none =>
    have hdraw : (draw s.nodes.length).run j = (.ok (j.draws.answer 0 s.nodes.length),
        { j with draws := j.draws.spend [(s.nodes.length : Int)] }) := by
      have hbelow := j.draws.below_of_pos (s.length_nodes_pos hn)
      rw [run_draw (congrArg Prod.fst hbelow), hbelow]
    simp only [resolveNode, nodeAt, nodeBounds, hs, hnode, Session.randomNode]
    rw [run_bind_of_ok hdraw]
    cases s.nodes[(j.draws.answer 0 s.nodes.length).toNat]? with
    | none => rfl
    | some node => rfl

/-- With a session that has nodes, only a node that is given can be refused. -/
theorem nodeAt_cases (hs : i.session = some s) (hn : s.nodes.isEmpty = false) (d : Draws) :
    (∃ node, i.node = some node ∧ s.hasNode node = true ∧ i.nodeAt d = .ok node) ∨
    (∃ node, i.node = some node ∧ s.hasNode node = false ∧
      i.nodeAt d = .error (.precondition .nodeNotInSession)) ∨
    ∃ node, i.node = none ∧ s.nodes[(d.answer 0 s.nodes.length).toNat]? = some node ∧
      i.nodeAt d = .ok node := by
  cases hnode : i.node with
  | some node =>
    cases hhas : s.hasNode node with
    | true => exact .inl ⟨node, rfl, hhas, by simp [nodeAt, hs, hnode, hhas]⟩
    | false => exact .inr (.inl ⟨node, rfl, hhas, by simp [nodeAt, hs, hnode, hhas]⟩)
  | none =>
    obtain ⟨hnonneg, hlt⟩ := d.answer_mem_range 0 (s.length_nodes_pos hn)
    have hindex : (d.answer 0 s.nodes.length).toNat < s.nodes.length := by omega
    refine .inr (.inr ⟨_, rfl, List.getElem?_eq_getElem hindex, ?_⟩)
    simp [nodeAt, hs, hnode, List.getElem?_eq_getElem hindex]

end Input

variable {i : Input} {j k : Journal}

theorem Signer.run_signPayload (s : Signer) (payload : Bytes) :
    (s.signPayload payload).run j =
      (s.sign payload, { j with signed := j.signed ++ [payload] }) :=
  run_attempt rfl

/-- What a relay does when its node and its entropy are settled. -/
structure Service where
  outcome : Except Fault Output
  signed : List Bytes := []
  handed : List Handover := []
  sent : List Sent := []
  logs : List LogRecord := []

def Service.after (s : Service) (j : Journal) : Journal := { j with
  signed := j.signed ++ s.signed
  handed := j.handed ++ s.handed
  sent := j.sent ++ s.sent
  logs := j.logs ++ s.logs }

def Input.relayingRecord (i : Input) (node : Node) : LogRecord where
  source := .relayer
  level := .debug
  text := Text.ofString "relaying " ++ i.blockchain.display ++
    Text.ofString " request to servicer " ++ node.publicKey.display

def Node.failureRecords (node : Node) : Except Fault RelayOutput → List LogRecord
  | .ok _ => []
  | .error f => [{
    source := .relayer
    level := .warning
    text := Text.ofString "relay to servicer " ++ node.publicKey.display ++
      Text.ofString " failed: " ++ f.message }]

namespace Input

def digested (i : Input) (node : Option Node) (entropy : Value) :
    Except Fault (Proof × Bytes) := do
  let unsigned ← i.unsignedProof node entropy
  return (unsigned, ← unsigned.digest)

/-- What is handed to the provider: the body holds the proof with its signature. -/
def handover (i : Input) (options : Option Options) (node : Node) (unsigned : Proof)
    (signature : Value) : Handover where
  url := node.serviceUrl
  input := ⟨i.payload, ⟨unsigned.sessionBlockHeight⟩, { unsigned with signature }⟩
  options

end Input

def Provider.serve (p : Provider) (digest : Bytes) (h : Handover) (node : Node) : Service where
  outcome := (p.relay h).outcome.map fun answer => ⟨answer, h.input.proof, node⟩
  signed := [digest]
  handed := [h]
  sent := (p.relay h).sent
  logs := (p.relay h).logs ++ node.failureRecords (p.relay h).outcome

/-- The rest of a relay by a node. -/
def Input.serve (i : Input) (signer : Signer) (provider : Provider) (options : Option Options)
    (node : Node) (entropy : Int) : Service :=
  match i.digested (some node) (.int entropy) with
  | .error f => { outcome := .error f }
  | .ok (unsigned, digest) =>
    match signer.sign digest with
    | .error f => { outcome := .error f, signed := [digest] }
    | .ok signature => provider.serve digest (i.handover options node unsigned signature) node

theorem Input.digested_eq_ok_iff {node : Option Node} {entropy : Value} {p : Proof} {d : Bytes} :
    i.digested node entropy = .ok (p, d) ↔ i.unsignedProof node entropy = .ok p ∧ p.digest = .ok d := by
  simp only [digested, bind_eq_ok_iff, pure_eq_ok_iff, Prod.mk.injEq]
  constructor
  · rintro ⟨_, hp, _, hd, rfl, rfl⟩
    exact ⟨hp, hd⟩
  · rintro ⟨hp, hd⟩
    exact ⟨_, hp, _, hd, rfl, rfl⟩

/-- An unsigned proof is about the input, at the height of its session, and about the node. -/
theorem Input.of_unsignedProof {node : Option Node} {entropy : Value} {p : Proof}
    (h : i.unsignedProof node entropy = .ok p) : ∃ n requestHash, node = some n ∧
      i.metadata = .ok ⟨p.sessionBlockHeight⟩ ∧ p = {
        requestHash := .text requestHash
        entropy
        sessionBlockHeight := p.sessionBlockHeight
        servicerPublicKey := n.publicKey
        blockchain := i.blockchain
        token := i.token } := by
  simp only [unsignedProof, bind_eq_ok_iff] at h
  obtain ⟨metadata, hmetadata, requestHash, -, h⟩ := h
  cases node with
  | none => cases h
  | some n =>
    obtain rfl := Except.ok.inj h
    exact ⟨n, requestHash, rfl, hmetadata, rfl⟩

theorem token_of_unsignedProof {node : Option Node} {entropy : Value} {p : Proof}
    (h : i.unsignedProof node entropy = .ok p) : p.token = i.token := by
  obtain ⟨_, _, -, -, hp⟩ := Input.of_unsignedProof h
  rw [hp]

/-- The signer is called once there is a digest, and its answer completes the proof. -/
theorem run_buildSignedProof (signer : Signer) (node : Option Node) (entropy : Value) :
    (buildSignedProof (some signer) node i entropy).run j =
      match i.digested node entropy with
      | .error f => (.error f, j)
      | .ok (unsigned, digest) => ((signer.sign digest).map fun signature =>
          { unsigned with signature }, { j with signed := j.signed ++ [digest] }) := by
  unfold buildSignedProof Input.digested
  cases hp : i.unsignedProof node entropy with
  | error f => exact run_bind_of_error (run_attempt rfl)
  | ok p =>
  rw [run_bind_of_ok (run_attempt rfl), ok_bind]
  cases hd : p.digest with
  | error f => exact run_bind_of_error (run_attempt rfl)
  | ok d =>
  rw [run_bind_of_ok (run_attempt rfl), ok_bind]
  exact run_bind_pure (signer.run_signPayload d) _

theorem Provider.run_deliver (p : Provider) (node : Node) (input : RelayInput)
    (options : Option Options) (j : Journal) :
    (p.deliver node input options).run j =
      ((p.relay ⟨node.serviceUrl, input, options⟩).outcome, { j with
        handed := j.handed ++ [⟨node.serviceUrl, input, options⟩]
        sent := j.sent ++ (p.relay ⟨node.serviceUrl, input, options⟩).sent
        logs := j.logs ++ (p.relay ⟨node.serviceUrl, input, options⟩).logs ++
          node.failureRecords (p.relay ⟨node.serviceUrl, input, options⟩).outcome }) := by
  rw [deliver, run_bind_of_ok (run_modify _)]
  cases (p.relay ⟨node.serviceUrl, input, options⟩).outcome with
  | ok answer => simp only [Node.failureRecords, List.append_nil]; rfl
  | error f => exact run_bind_of_ok (run_log ..)

/-- What a relay still does with its node and its entropy is its service. -/
theorem Input.run_serve (i : Input) (signer : Signer) (provider : Provider)
    (options : Option Options) (node : Node) (entropy : Int) :
    (do
      let proof ← buildSignedProof (some signer) (some node) i (.int entropy)
      let metadata ← attempt i.metadata
      let relayOutput ← provider.deliver node ⟨i.payload, metadata, proof⟩ options
      return ⟨relayOutput, proof, node⟩ : Relaying Output).run j =
      let service := i.serve signer provider options node entropy
      (service.outcome, service.after j) := by
  have hbuild := run_buildSignedProof (i := i) (j := j) signer (some node) (.int entropy)
  cases hdigested : i.digested (some node) (.int entropy) with
  | error f =>
    simp only [hdigested] at hbuild
    rw [run_bind_of_error hbuild]
    simp [serve, hdigested, Service.after]
  | ok p =>
  obtain ⟨unsigned, digest⟩ := p
  simp only [hdigested] at hbuild
  cases hsign : signer.sign digest with
  | error f =>
    rw [hsign] at hbuild
    rw [run_bind_of_error hbuild]
    simp [serve, hdigested, hsign, Service.after]
  | ok signature =>
    rw [hsign] at hbuild
    obtain ⟨_, _, -, hmetadata, -⟩ := of_unsignedProof (digested_eq_ok_iff.mp hdigested).1
    rw [run_bind_of_ok hbuild, run_bind_of_ok (run_attempt hmetadata),
      run_bind_pure (provider.run_deliver ..)]
    simp [serve, hdigested, hsign, Service.after, Provider.serve, handover]

namespace Relayer

variable {r : Relayer} {options : Option Options}

/-- A relay past its preconditions has everything that they ask for. -/
structure Passed (r : Relayer) (i : Input) where
  signer : Signer
  provider : Provider
  session : Session
  header : SessionHeader
  token : Token
  hasSigner : r.signer = some signer
  hasProvider : r.provider = some provider
  hasSession : i.session = some session
  hasHeader : session.header = some header
  hasToken : i.token = some token
  hasNodes : session.nodes.isEmpty = false

theorem exists_passed (h : r.failedPrecondition? i = none) : Nonempty (r.Passed i) := by
  obtain ⟨signer, provider⟩ := r
  unfold failedPrecondition? at h
  cases signer with
  | none => cases h
  | some signer =>
  cases provider with
  | none => cases h
  | some provider =>
  cases hsession : i.session with
  | none =>
    rw [hsession] at h
    cases h
  | some session =>
  cases htoken : i.token with
  | none =>
    rw [hsession, htoken] at h
    cases h
  | some token =>
  cases hnodes : session.nodes.isEmpty with
  | true => simp [hsession, htoken, hnodes] at h
  | false =>
  cases hheader : session.header with
  | none => simp [hsession, htoken, hnodes, hheader] at h
  | some header =>
    exact ⟨⟨signer, provider, session, header, token, rfl, rfl, hsession, hheader, htoken, hnodes⟩⟩

theorem Passed.failedPrecondition?_eq (P : r.Passed i) : r.failedPrecondition? i = none := by
  simp [failedPrecondition?, P.hasSigner, P.hasProvider, P.hasSession, P.hasHeader, P.hasToken,
    P.hasNodes]

def begun (i : Input) (node : Node) (j : Journal) : Journal := { j with
  draws := j.draws.spend i.bounds
  logs := j.logs ++ [i.relayingRecord node] }

theorem run_relay_of_failed {p : Precondition} (h : r.failedPrecondition? i = some p) :
    (r.relay i options).run j = (.error (.precondition p), j) := by
  rw [relay, h]
  rfl

theorem Passed.run_relay_of_error (P : r.Passed i) {f : Fault} (h : i.nodeAt j.draws = .error f) :
    (r.relay i options).run j = (.error f, { j with draws := j.draws.spend i.nodeBounds }) := by
  have hresolve := Input.run_resolveNode (j := j) P.hasSession P.hasNodes
  rw [h] at hresolve
  rw [relay, P.failedPrecondition?_eq]
  exact run_bind_of_error hresolve

/-- With a node the relay is served by it. -/
theorem Passed.run_relay (P : r.Passed i) {node : Node} (h : i.nodeAt j.draws = .ok node) :
    (r.relay i options).run j =
      let service := i.serve P.signer P.provider options node (i.entropyAt j.draws)
      (service.outcome, service.after (begun i node j)) := by
  have hresolve := Input.run_resolveNode (j := j) P.hasSession P.hasNodes
  rw [h] at hresolve
  have hdraw : (draw entropyBound).run { j with
      draws := j.draws.spend i.nodeBounds, logs := j.logs ++ [i.relayingRecord node] } =
      (.ok (i.entropyAt j.draws), begun i node j) := by
    have hbelow := (j.draws.spend i.nodeBounds).below_of_pos entropyBound_pos
    rw [run_draw (congrArg Prod.fst hbelow), hbelow, ← Draws.spend_append]
    rfl
  rw [relay, P.failedPrecondition?_eq]
  dsimp only
  rw [run_bind_of_ok hresolve, run_bind_of_ok (run_log ..)]
  refine (run_bind_of_ok hdraw).trans ?_
  rw [P.hasSigner, P.hasProvider]
  exact i.run_serve P.signer P.provider options node (i.entropyAt j.draws)

end Relayer
end RelayClient
