import RelayClient.Proofs.RelayCourse

/-!
# The first stage that fails

A relay goes through thirteen stages. What a stage comes to is said of the input, the draws, the
signer and the provider alone, whatever becomes of the others; one that needs what an earlier stage
finds fails if that one does. The relay ends with the fault of the first stage that has one, and with
the effects of the stages up to it.
-/
namespace RelayClient

/-- The stages of a relay, in their order. -/
inductive Stage where
  | signer | provider | session | token | nodes | header | node | entropy
  | requestHash | tokenHash | proofHash | signature | delivery
  deriving DecidableEq

namespace Stage

def all : List Stage :=
  [signer, provider, session, token, nodes, header, node, entropy, requestHash, tokenHash,
    proofHash, signature, delivery]

def before (s : Stage) : List Stage := all.takeWhile (· ≠ s)

def precondition? : Stage → Option Precondition
  | signer => some .noSigner
  | provider => some .noProvider
  | session => some .noSession
  | token => some .noToken
  | nodes => some .sessionHasNoNodes
  | header => some .noSessionHeader
  | node => some .nodeNotInSession
  | _ => none

def hashing : List Stage := [requestHash, tokenHash, proofHash]

/-- Of two stages one comes before the other. -/
theorem before_total (s t : Stage) : s = t ∨ s ∈ t.before ∨ t ∈ s.before := by
  cases s <;> cases t <;> decide

theorem eq_delivery_or_before (s : Stage) : s = delivery ∨ s ∈ delivery.before := by
  cases s <;> decide

end Stage

theorem Proof.digest_of_tokenHash {p : Proof} {i : Input} {token : Token} {f : Fault}
    (hp : p.token = i.token) (hi : i.token = some token) (h : token.hash = .error f) :
    p.digest = .error f := by
  simp only [digest, signable, hp, hi, h]
  rfl

/-- One call of a relayer. -/
structure Call where
  relayer : Relayer
  input : Input
  options : Option Options
  draws : Draws

def faultOf {α : Type} : Except Fault α → Option Fault
  | .ok _ => none
  | .error f => some f

@[simp] theorem faultOf_ok {α : Type} (a : α) : faultOf (.ok a) = none := rfl

@[simp] theorem faultOf_error {α : Type} (f : Fault) :
    faultOf (.error f : Except Fault α) = some f := rfl

/-- What a precondition asks for. -/
def present {α : Type} (p : Precondition) : Option α → Except Fault α
  | some a => .ok a
  | none => .error (.precondition p)

@[simp] theorem present_some {α : Type} (p : Precondition) (a : α) :
    present p (some a) = .ok a := rfl

@[simp] theorem present_none {α : Type} (p : Precondition) :
    present p (none : Option α) = .error (.precondition p) := rfl

namespace Call

variable (c : Call)

def run : Except Fault Output × Journal :=
  (c.relayer.relay c.input c.options).run { draws := c.draws }

/-! What the stages come to -/

def signer : Except Fault Signer := present .noSigner c.relayer.signer

def provider : Except Fault Provider := present .noProvider c.relayer.provider

def session : Except Fault Session := present .noSession c.input.session

def token : Except Fault Token := present .noToken c.input.token

def nodes : Except Fault (List Node) := do
  match (← c.session).nodes with
  | [] => .error (.precondition .sessionHasNoNodes)
  | nodes => .ok nodes

def header : Except Fault SessionHeader := do present .noSessionHeader (← c.session).header

def node : Except Fault Node := c.input.nodeAt c.draws

/-- A number below a positive bound can always be drawn. -/
def entropy : Int := c.input.entropyAt c.draws

def requestHash : Except Fault Text := do
  Request.hash ⟨c.input.payload, ⟨(← c.header).sessionHeight⟩⟩

def tokenHash : Except Fault Text := do (← c.token).hash

def unsigned : Except Fault Proof := do
  return {
    requestHash := .text (← c.requestHash)
    entropy := .int c.entropy
    sessionBlockHeight := (← c.header).sessionHeight
    servicerPublicKey := (← c.node).publicKey
    blockchain := c.input.blockchain
    token := c.input.token }

def proofHash : Except Fault Bytes := do (← c.unsigned).digest

def signature : Except Fault Value := do (← c.signer).sign (← c.proofHash)

def handover : Except Fault Handover := do
  return c.input.handover c.options (← c.node) (← c.unsigned) (← c.signature)

def delivery : Except Fault Delivery := do return (← c.provider).relay (← c.handover)

def answer : Except Fault RelayOutput := do (← c.delivery).outcome

def output : Except Fault Output := do
  return ⟨← c.answer, (← c.handover).input.proof, ← c.node⟩

def fault? : Stage → Option Fault
  | .signer => faultOf c.signer
  | .provider => faultOf c.provider
  | .session => faultOf c.session
  | .token => faultOf c.token
  | .nodes => faultOf c.nodes
  | .header => faultOf c.header
  | .node => faultOf c.node
  | .entropy => none
  | .requestHash => faultOf c.requestHash
  | .tokenHash => faultOf c.tokenHash
  | .proofHash => faultOf c.proofHash
  | .signature => faultOf c.signature
  | .delivery => faultOf c.answer

/-- No stage before the given one fails. -/
def Reaches (s : Stage) : Prop := ∀ t ∈ s.before, c.fault? t = none

/-- The given stage is the first that fails. -/
structure StopsAt (s : Stage) (f : Fault) : Prop where
  reaches : c.Reaches s
  fails : c.fault? s = some f

def begun (node : Node) : Journal where
  draws := c.draws.spend c.input.bounds
  logs := [c.input.relayingRecord node]

/-- A node of the session has the key of the node that is given, if one is. -/
def GivesMember : Prop :=
  ∀ node, c.input.node = some node → ∃ session, c.input.session = some session ∧
    ∃ member ∈ session.nodes, member.publicKey.same node.publicKey = true

variable {c} {s t : Stage} {f g : Fault}

theorem StopsAt.unique (h : c.StopsAt s f) (h' : c.StopsAt t g) : s = t ∧ f = g := by
  obtain rfl | hst | hts := s.before_total t
  · exact ⟨rfl, Option.some.inj (h.fails.symm.trans h'.fails)⟩
  · exact absurd (h'.reaches s hst) (by simp [h.fails])
  · exact absurd (h.reaches t hts) (by simp [h'.fails])

theorem reaches_signer : c.Reaches .signer := nofun

/-- The stage behind one that is reached and does not fail is reached. -/
theorem Reaches.step (h : c.Reaches s) (ht : t.before = s.before ++ [s])
    (hs : c.fault? s = none) : c.Reaches t := by
  intro u hu
  rw [ht, List.mem_append, List.mem_singleton] at hu
  obtain hu | rfl := hu
  · exact h u hu
  · exact hs

/-- Either a precondition is the first to fail, or all of them hold. -/
theorem precondition_cases (c : Call) :
    (∃ s p, s ∈ Stage.node.before ∧ s.precondition? = some p ∧ c.StopsAt s (.precondition p) ∧
      c.relayer.failedPrecondition? c.input = some p) ∨
    c.Reaches .node ∧ Nonempty (c.relayer.Passed c.input) := by
  have hreaches := c.reaches_signer
  cases hsigner : c.relayer.signer with
  | none =>
    refine .inl ⟨.signer, _, by decide, rfl, ⟨hreaches, ?_⟩, ?_⟩
    · simp [fault?, signer, hsigner]
    · simp [Relayer.failedPrecondition?, hsigner]
  | some signer =>
  replace hreaches : c.Reaches .provider :=
    hreaches.step rfl (by simp [fault?, Call.signer, hsigner])
  cases hprovider : c.relayer.provider with
  | none =>
    refine .inl ⟨.provider, _, by decide, rfl, ⟨hreaches, ?_⟩, ?_⟩
    · simp [fault?, provider, hprovider]
    · simp [Relayer.failedPrecondition?, hsigner, hprovider]
  | some provider =>
  replace hreaches : c.Reaches .session :=
    hreaches.step rfl (by simp [fault?, Call.provider, hprovider])
  cases hsession : c.input.session with
  | none =>
    refine .inl ⟨.session, _, by decide, rfl, ⟨hreaches, ?_⟩, ?_⟩
    · simp [fault?, session, hsession]
    · simp [Relayer.failedPrecondition?, hsigner, hprovider, hsession]
  | some session =>
  have hsession' : c.session = .ok session := by simp [Call.session, hsession]
  replace hreaches : c.Reaches .token := hreaches.step rfl (by simp [fault?, hsession'])
  cases htoken : c.input.token with
  | none =>
    refine .inl ⟨.token, _, by decide, rfl, ⟨hreaches, ?_⟩, ?_⟩
    · simp [fault?, token, htoken]
    · simp [Relayer.failedPrecondition?, hsigner, hprovider, hsession, htoken]
  | some token =>
  replace hreaches : c.Reaches .nodes :=
    hreaches.step rfl (by simp [fault?, Call.token, htoken])
  cases hnodes : session.nodes with
  | nil =>
    refine .inl ⟨.nodes, _, by decide, rfl, ⟨hreaches, ?_⟩, ?_⟩
    · simp [fault?, nodes, hsession', ok_bind, hnodes]
    · simp [Relayer.failedPrecondition?, hsigner, hprovider, hsession, htoken, hnodes]
  | cons node rest =>
  replace hreaches : c.Reaches .header :=
    hreaches.step rfl (by simp [fault?, nodes, hsession', ok_bind, hnodes])
  cases hheader : session.header with
  | none =>
    refine .inl ⟨.header, _, by decide, rfl, ⟨hreaches, ?_⟩, ?_⟩
    · simp [fault?, header, hsession', ok_bind, hheader]
    · simp [Relayer.failedPrecondition?, hsigner, hprovider, hsession, htoken, hnodes, hheader]
  | some header =>
  replace hreaches : c.Reaches .node :=
    hreaches.step rfl (by simp [fault?, Call.header, hsession', ok_bind, hheader])
  exact .inr ⟨hreaches, ⟨{
    signer, provider, session, header, token
    hasSigner := hsigner
    hasProvider := hprovider
    hasSession := hsession
    hasHeader := hheader
    hasToken := htoken
    hasNodes := by simp [hnodes] }⟩⟩

section Passed

variable (P : c.relayer.Passed c.input)
include P

theorem header_eq : c.header = .ok P.header := by
  rw [header, session, P.hasSession, present_some, ok_bind, P.hasHeader, present_some]

theorem givesMember_iff {node : Node} (h : c.input.node = some node) :
    c.GivesMember ↔ P.session.hasNode node = true := by
  simp [GivesMember, h, P.hasSession, Session.hasNode]

/-- Past the preconditions a node is refused exactly if it is given and not of the session. -/
theorem fault?_node_eq_none_iff : c.fault? .node = none ↔ c.GivesMember := by
  obtain ⟨node, hgiven, hhas, h⟩ | ⟨node, hgiven, hhas, h⟩ | ⟨node, hnone, -, h⟩ :=
    Input.nodeAt_cases P.hasSession P.hasNodes c.draws
  · simp [fault?, Call.node, h, givesMember_iff P hgiven, hhas]
  · simp [fault?, Call.node, h, givesMember_iff P hgiven, hhas]
  · simp [fault?, Call.node, h, GivesMember, hnone]

/-- Either the caller's node is refused, or there is a node. -/
theorem node_cases (hreaches : c.Reaches .node) :
    (c.StopsAt .node (.precondition .nodeNotInSession) ∧
      c.run = (.error (.precondition .nodeNotInSession), { draws := c.draws })) ∨
    ∃ node, c.Reaches .requestHash ∧ c.node = .ok node := by
  have hok {node : Node} (h : c.node = .ok node) : c.Reaches .requestHash := by
    have hentropy : c.Reaches .entropy := hreaches.step rfl (by simp [fault?, h])
    exact hentropy.step rfl rfl
  obtain ⟨node, -, -, h⟩ | ⟨node, hgiven, -, h⟩ | ⟨node, -, -, h⟩ :=
    Input.nodeAt_cases P.hasSession P.hasNodes c.draws
  · exact .inr ⟨node, hok h, h⟩
  · refine .inl ⟨⟨hreaches, by simp [fault?, Call.node, h]⟩, ?_⟩
    rw [run, P.run_relay_of_error h]
    simp [Input.nodeBounds, P.hasSession, hgiven]
  · exact .inr ⟨node, hok h, h⟩

theorem run_of_node {node : Node} (h : c.node = .ok node) : c.run =
    let service := c.input.serve P.signer P.provider c.options node c.entropy
    (service.outcome, service.after (Relayer.begun c.input node { draws := c.draws })) :=
  P.run_relay h

/-- The node that is settled on and the entropy make a proof as soon as the request has a hash. -/
theorem unsignedProof_eq {node : Node} (hnode : c.node = .ok node) :
    c.input.unsignedProof (some node) (.int c.entropy) = c.unsigned := by
  have hmetadata : c.input.metadata = .ok ⟨P.header.sessionHeight⟩ := by
    simp only [Input.metadata, Input.sessionHeight, P.hasSession, P.hasHeader]
    rfl
  rw [Input.unsignedProof, unsigned, requestHash, header_eq P, hmetadata, hnode, ok_bind, ok_bind]
  rfl

/-- Either a hash is the first stage to fail, or there is a digest to be signed. -/
theorem hashing_cases {node : Node} (hreaches : c.Reaches .requestHash)
    (hnode : c.node = .ok node) :
    (∃ s f, s ∈ Stage.hashing ∧ c.StopsAt s f ∧
      c.input.digested (some node) (.int c.entropy) = .error f) ∨
    ∃ unsigned d, c.Reaches .signature ∧ c.unsigned = .ok unsigned ∧ c.proofHash = .ok d ∧
      c.input.digested (some node) (.int c.entropy) = .ok (unsigned, d) := by
  have hproof := unsignedProof_eq P hnode
  cases hrequest : c.requestHash with
  | error f =>
    have hnone : c.unsigned = .error f := by rw [unsigned, hrequest]; rfl
    refine .inl ⟨.requestHash, f, by decide, ⟨hreaches, by simp [fault?, hrequest]⟩, ?_⟩
    rw [Input.digested, hproof, hnone]
    rfl
  | ok requestHash =>
  obtain ⟨p, hunsigned⟩ : ∃ p, c.unsigned = .ok p := by
    rw [unsigned, hrequest, header_eq P, hnode]
    exact ⟨_, rfl⟩
  have hp := hproof.trans hunsigned
  replace hreaches : c.Reaches .tokenHash := hreaches.step rfl (by simp [fault?, hrequest])
  have htoken : c.tokenHash = P.token.hash := by
    rw [tokenHash, token, P.hasToken]
    rfl
  cases hhash : P.token.hash with
  | error f =>
    have hdigest := Proof.digest_of_tokenHash (token_of_unsignedProof hp) P.hasToken hhash
    refine .inl ⟨.tokenHash, f, by decide, ⟨hreaches, by simp [fault?, htoken, hhash]⟩, ?_⟩
    rw [Input.digested, hp, ok_bind, hdigest]
    rfl
  | ok tokenHash =>
  replace hreaches : c.Reaches .proofHash := hreaches.step rfl (by simp [fault?, htoken, hhash])
  have hproofHash : c.proofHash = p.digest := by rw [proofHash, hunsigned, ok_bind]
  cases hdigest : p.digest with
  | error f =>
    rw [hdigest] at hproofHash
    refine .inl ⟨.proofHash, f, by decide, ⟨hreaches, by simp [fault?, hproofHash]⟩, ?_⟩
    rw [Input.digested, hp, ok_bind, hdigest]
    rfl
  | ok d =>
    rw [hdigest] at hproofHash
    replace hreaches : c.Reaches .signature := hreaches.step rfl (by simp [fault?, hproofHash])
    exact .inr ⟨p, d, hreaches, hunsigned, hproofHash,
      Input.digested_eq_ok_iff.mpr ⟨hp, hdigest⟩⟩

end Passed

/-- What the stages up to one of them leave in the journal, this one being the last. Nothing ends with
the draw of the entropy, which cannot fail. -/
def Leaves (c : Call) (s : Stage) (k : Journal) : Prop :=
  match s with
  | .signer | .provider | .session | .token | .nodes | .header | .node => k = { draws := c.draws }
  | .entropy => False
  | .requestHash | .tokenHash | .proofHash => ∃ node, c.node = .ok node ∧ k = c.begun node
  | .signature => ∃ node d, c.node = .ok node ∧ c.proofHash = .ok d ∧
      k = { c.begun node with signed := [d] }
  | .delivery => ∃ node d h v, c.node = .ok node ∧ c.proofHash = .ok d ∧ c.handover = .ok h ∧
      c.delivery = .ok v ∧ k = { c.begun node with
        signed := [d]
        handed := [h]
        sent := v.sent
        logs := [c.input.relayingRecord node] ++ v.logs ++ node.failureRecords v.outcome }

theorem leaves_of_precondition {p : Precondition} (hs : s.precondition? = some p) :
    c.Leaves s { draws := c.draws } := by
  cases s <;> first | rfl | cases hs

theorem leaves_of_hashing {node : Node} (hs : s ∈ Stage.hashing) (h : c.node = .ok node) :
    c.Leaves s (c.begun node) ∧ s.precondition? = none := by
  simp only [Stage.hashing, List.mem_cons, List.not_mem_nil, or_false] at hs
  obtain rfl | rfl | rfl := hs
  · exact ⟨⟨node, h, rfl⟩, rfl⟩
  · exact ⟨⟨node, h, rfl⟩, rfl⟩
  · exact ⟨⟨node, h, rfl⟩, rfl⟩

/-- How a call ends: with the fault of the first stage that fails, or with an output. -/
inductive Ending (c : Call) : Prop where
  | stopped (s : Stage) (f : Fault) (stops : c.StopsAt s f)
      (kind : ∀ p, s.precondition? = some p → f = .precondition p)
      (outcome : c.run.1 = .error f) (leaves : c.Leaves s c.run.2)
  | answered (o : Output) (faultless : ∀ s, c.fault? s = none) (outcome : c.run.1 = .ok o)
      (output : c.output = .ok o) (leaves : c.Leaves .delivery c.run.2)

/-- From the delivery on it is for the provider to fail or to answer. -/
theorem ending_of_delivery {node : Node} {d : Bytes} {h : Handover} {v : Delivery}
    (hreaches : c.Reaches .delivery) (hnode : c.node = .ok node) (hdigest : c.proofHash = .ok d)
    (hhandover : c.handover = .ok h) (hdelivery : c.delivery = .ok v)
    (hrun : c.run = (v.outcome.map (⟨·, h.input.proof, node⟩), { c.begun node with
      signed := [d]
      handed := [h]
      sent := v.sent
      logs := [c.input.relayingRecord node] ++ v.logs ++ node.failureRecords v.outcome })) :
    c.Ending := by
  have hleaves : c.Leaves .delivery c.run.2 := by
    rw [hrun]
    exact ⟨node, d, h, v, hnode, hdigest, hhandover, hdelivery, rfl⟩
  have hanswer : c.answer = v.outcome := by rw [answer, hdelivery, ok_bind]
  have houtcome := congrArg Prod.fst hrun
  cases ho : v.outcome with
  | error f =>
    rw [ho] at hanswer houtcome
    exact .stopped .delivery f ⟨hreaches, by simp [fault?, hanswer]⟩ (by simp [Stage.precondition?])
      houtcome hleaves
  | ok answer =>
    rw [ho] at hanswer houtcome
    refine .answered _ (fun s => ?_) houtcome ?_ hleaves
    · obtain rfl | hs := s.eq_delivery_or_before
      · simp [fault?, hanswer]
      · exact hreaches s hs
    · rw [output, hanswer, hhandover, hnode]
      rfl

theorem ending (c : Call) : c.Ending := by
  obtain ⟨s, p, -, hs, hstops, hfailed⟩ | ⟨hreaches, ⟨P⟩⟩ := c.precondition_cases
  · have hrun : c.run = _ := Relayer.run_relay_of_failed hfailed
    refine .stopped s _ hstops (fun q hq => ?_) (by rw [hrun]) ?_
    · rw [Option.some.inj (hs.symm.trans hq)]
    · rw [hrun]
      exact leaves_of_precondition hs
  obtain ⟨hstops, hrun⟩ | ⟨node, hreaches, hnode⟩ := node_cases P hreaches
  · refine .stopped .node _ hstops ?_ (by rw [hrun]) (by rw [hrun]; rfl)
    rintro _ ⟨⟩
    rfl
  have hrun := run_of_node P hnode
  obtain ⟨s, f, hs, hstops, hdigested⟩ | ⟨unsigned, d, hreaches, hunsigned, hdigest, hdigested⟩ :=
    hashing_cases P hreaches hnode
  · simp only [Input.serve, hdigested] at hrun
    obtain ⟨hleaves, hnone⟩ := leaves_of_hashing hs hnode
    refine .stopped s f hstops (by simp [hnone]) (by rw [hrun]) ?_
    rw [hrun]
    exact hleaves
  have hsignature : c.signature = P.signer.sign d := by
    rw [signature, signer, P.hasSigner, hdigest]
    rfl
  cases hsign : P.signer.sign d with
  | error f =>
    simp only [Input.serve, hdigested, hsign] at hrun
    rw [hsign] at hsignature
    refine .stopped .signature f ⟨hreaches, by simp [fault?, hsignature]⟩
      (by simp [Stage.precondition?]) (by rw [hrun]) ?_
    rw [hrun]
    exact ⟨node, d, hnode, hdigest, rfl⟩
  | ok value =>
    simp only [Input.serve, hdigested, hsign] at hrun
    rw [hsign] at hsignature
    have hhandover : c.handover = .ok (c.input.handover c.options node unsigned value) := by
      rw [handover, hnode, hunsigned, hsignature]
      rfl
    have hdelivery : c.delivery =
        .ok (P.provider.relay (c.input.handover c.options node unsigned value)) := by
      rw [delivery, provider, P.hasProvider, hhandover]
      rfl
    exact ending_of_delivery (hreaches.step rfl (by simp [fault?, hsignature])) hnode hdigest
      hhandover hdelivery hrun

/-- The stages up to the header are the preconditions, so that past them they all hold. -/
theorem Reaches.fault?_node_eq_none_iff (h : c.Reaches .node) :
    c.fault? .node = none ↔ c.GivesMember := by
  obtain ⟨s, p, hs, -, hstops, -⟩ | ⟨-, ⟨P⟩⟩ := c.precondition_cases
  · cases (h s hs).symm.trans hstops.fails
  · exact Call.fault?_node_eq_none_iff P

/-- A relay ends with the fault of its first stage that has one, which for a precondition is that
precondition, and with an output if none has. Only a node that is given and does not belong to the
session is refused. The effects are those of the stages up to the last: none if a precondition fails,
the draws and one record if a hash fails, the call of the signer as well if that fails, and otherwise
also the delivery, with a warning if the provider failed. -/
theorem relay_stops_at_first_fault (c : Call) :
    ((∃ o, c.run.1 = .ok o) ↔ ∀ s, c.fault? s = none) ∧
    (∀ o, c.run.1 = .ok o → c.output = .ok o) ∧
    (∀ f, c.run.1 = .error f ↔ ∃ s, c.StopsAt s f) ∧
    (∀ s f p, c.StopsAt s f → s.precondition? = some p → f = .precondition p) ∧
    (∀ s f, c.StopsAt s f → c.Leaves s c.run.2) ∧
    ((∀ s, c.fault? s = none) → c.Leaves .delivery c.run.2) ∧
    (c.Reaches .node → (c.fault? .node = none ↔ c.GivesMember)) := by
  obtain ⟨s, f, hstops, hkind, houtcome, hleaves⟩ | ⟨o, hfaultless, houtcome, houtput, hleaves⟩ :=
    c.ending
  · have hfaulty : ¬ ∀ s, c.fault? s = none := fun h => by
      have hnone := h s
      rw [hstops.fails] at hnone
      cases hnone
    have hfailed {o : Output} (h : c.run.1 = .ok o) : False := by
      rw [houtcome] at h
      cases h
    refine ⟨⟨fun ⟨o, h⟩ => (hfailed h).elim, fun h => absurd h hfaulty⟩,
      fun o h => (hfailed h).elim, fun g => ⟨?_, ?_⟩, ?_, ?_, fun h => absurd h hfaulty,
      Reaches.fault?_node_eq_none_iff⟩
    · intro hg
      rw [houtcome] at hg
      cases hg
      exact ⟨s, hstops⟩
    · rintro ⟨t, ht⟩
      rw [houtcome, (ht.unique hstops).2]
    · intro t g p ht hp
      obtain ⟨rfl, rfl⟩ := ht.unique hstops
      exact hkind p hp
    · intro t g ht
      obtain ⟨rfl, rfl⟩ := ht.unique hstops
      exact hleaves
  · have hnever {t : Stage} {g : Fault} (ht : c.StopsAt t g) : False := by
      have hfails := ht.fails
      rw [hfaultless t] at hfails
      cases hfails
    refine ⟨⟨fun _ => hfaultless, fun _ => ⟨o, houtcome⟩⟩, ?_, fun g => ⟨?_, ?_⟩, ?_, ?_,
      fun _ => hleaves, Reaches.fault?_node_eq_none_iff⟩
    · intro o' ho'
      rw [houtcome] at ho'
      cases ho'
      exact houtput
    · intro hg
      rw [houtcome] at hg
      cases hg
    · rintro ⟨t, ht⟩
      exact (hnever ht).elim
    · intro t g p ht
      exact (hnever ht).elim
    · intro t g ht
      exact (hnever ht).elim

end Call
end RelayClient
