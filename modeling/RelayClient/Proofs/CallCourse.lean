import RelayClient.Proofs.ClientRuns
import RelayClient.Proofs.HashFaults
import RelayClient.Proofs.RelayRuns

/-!
# How far a call gets

A call is turned away before it draws anything, or it begins with a node and an entropy. Then it
fails in hashing, or its signer refuses, or its provider is called. Each of these comes with the whole
report of the call.
-/
namespace RelayClient

/-- The unsigned proof of an input for a node that may serve it, with the digest of the proof. -/
structure Input.Drafted (i : Input) (node : Node) (entropy : Int) (unsigned : Proof)
    (digest : Bytes) : Prop where
  serves : i.IsServedBy node
  builds : i.unsignedProof (some node) (.int entropy) = .ok unsigned
  digests : unsigned.digest = .ok digest

namespace Input.Drafted

variable {i : Input} {node : Node} {entropy : Int} {unsigned : Proof} {digest : Bytes}

theorem about (h : i.Drafted node entropy unsigned digest) :
    unsigned.servicerPublicKey = node.publicKey ∧ unsigned.entropy = .int entropy := by
  obtain ⟨_, _, hsome, -, hproof⟩ := Input.of_unsignedProof h.builds
  cases hsome
  rw [hproof]
  exact ⟨rfl, rfl⟩

end Input.Drafted

def Input.report (i : Input) (signer : Signer) (provider : Provider) (options : Option Options)
    (node : Node) (entropy : Int) : Report :=
  let service := i.serve signer provider options node entropy
  ⟨service.outcome, i.bounds, service.signed, service.handed, service.sent,
    i.relayingRecord node :: service.logs⟩

namespace Call

/-- A call past its preconditions whose draws lead to a node. -/
structure Begins (c : Call) (node : Node) : Prop where
  passes : c.relayer.failedPrecondition? c.input = none
  leads : c.input.nodeAt c.draws = .ok node

/-- How far a call gets, with its report. -/
inductive Course (c : Call) : Report → Prop where
  | refused (p : Precondition) (fails : c.relayer.failedPrecondition? c.input = some p) :
      c.Course ⟨.error (.precondition p), [], [], [], [], []⟩
  | foreign (session : Session) (node : Node)
      (passes : c.relayer.failedPrecondition? c.input = none)
      (hasSession : c.input.session = some session) (hasNode : c.input.node = some node)
      (unknown : session.hasNode node = false) :
      c.Course ⟨.error (.precondition .nodeNotInSession), [], [], [], [], []⟩
  | undigested (node : Node) (f : Fault) (begins : c.Begins node) (hashing : f.IsHashing) :
      c.Course ⟨.error f, c.input.bounds, [], [], [], [c.input.relayingRecord node]⟩
  | unsigned (signer : Signer) (node : Node) (unsigned : Proof) (digest : Bytes) (f : Fault)
      (begins : c.Begins node) (hasSigner : c.relayer.signer = some signer)
      (drafted : c.input.Drafted node (c.input.entropyAt c.draws) unsigned digest)
      (signs : signer.sign digest = .error f) :
      c.Course ⟨.error f, c.input.bounds, [digest], [], [], [c.input.relayingRecord node]⟩
  | delivered (signer : Signer) (provider : Provider) (node : Node) (unsigned : Proof)
      (digest : Bytes) (signature : Value) (handover : Handover)
      (begins : c.Begins node) (hasSigner : c.relayer.signer = some signer)
      (hasProvider : c.relayer.provider = some provider)
      (drafted : c.input.Drafted node (c.input.entropyAt c.draws) unsigned digest)
      (signs : signer.sign digest = .ok signature)
      (hands : handover = c.input.handover c.options node unsigned signature) :
      c.Course ⟨(provider.relay handover).outcome.map (⟨·, handover.input.proof, node⟩),
        c.input.bounds, [digest], [handover], (provider.relay handover).sent,
        c.input.relayingRecord node :: ((provider.relay handover).logs ++
          node.failureRecords (provider.relay handover).outcome)⟩

variable {c : Call}

theorem report_of_failed (hfresh : c.draws.asked = []) {p : Precondition}
    (h : c.relayer.failedPrecondition? c.input = some p) :
    c.report = ⟨.error (.precondition p), [], [], [], [], []⟩ := by
  have hrun : c.run = _ := Relayer.run_relay_of_failed h
  rw [report, hrun, hfresh]

theorem report_of_foreign (hfresh : c.draws.asked = []) (P : c.relayer.Passed c.input)
    {node : Node} (hnode : c.input.node = some node) (hunknown : P.session.hasNode node = false) :
    c.report = ⟨.error (.precondition .nodeNotInSession), [], [], [], [], []⟩ := by
  have hat : c.input.nodeAt c.draws = .error (.precondition .nodeNotInSession) := by
    simp [Input.nodeAt, P.hasSession, hnode, hunknown]
  have hrun : c.run = _ := P.run_relay_of_error hat
  have hnone : c.input.nodeBounds = [] := by rw [Input.nodeBounds, P.hasSession, hnode]
  rw [report, hrun, hnone, Draws.spend_nil, hfresh]

theorem report_of_node (hfresh : c.draws.asked = []) (P : c.relayer.Passed c.input) {node : Node}
    (hnode : c.input.nodeAt c.draws = .ok node) : c.report =
      c.input.report P.signer P.provider c.options node (c.input.entropyAt c.draws) := by
  have hrun : c.run = _ := P.run_relay hnode
  rw [report, hrun]
  simp [Input.report, Service.after, Relayer.begun, Draws.spend, hfresh]

theorem course (hfresh : c.draws.asked = []) : c.Course c.report := by
  cases hpassed : c.relayer.failedPrecondition? c.input with
  | some p =>
    rw [report_of_failed hfresh hpassed]
    exact .refused p hpassed
  | none =>
  obtain ⟨P⟩ := Relayer.exists_passed hpassed
  cases hnode : c.input.nodeAt c.draws with
  | error f =>
    obtain ⟨_, -, -, h⟩ | ⟨node, hgiven, hunknown, -⟩ | ⟨_, -, -, h⟩ :=
      Input.nodeAt_cases P.hasSession P.hasNodes c.draws
    · cases h.symm.trans hnode
    · rw [report_of_foreign hfresh P hgiven hunknown]
      exact .foreign _ node hpassed P.hasSession hgiven hunknown
    · cases h.symm.trans hnode
  | ok node =>
  have hbegins : c.Begins node := ⟨hpassed, hnode⟩
  rw [report_of_node hfresh P hnode, Input.report, Input.serve]
  cases hdigested : c.input.digested (some node) (.int (c.input.entropyAt c.draws)) with
  | error f =>
    exact .undigested node f hbegins (Input.digested_failsWith _ _ _ f hdigested)
  | ok a =>
  obtain ⟨unsigned, digest⟩ := a
  obtain ⟨hunsigned, hdigest⟩ := Input.digested_eq_ok_iff.mp hdigested
  have hserves : c.input.IsServedBy node := by
    have hresolves := Input.run_resolveNode (j := { draws := c.draws }) P.hasSession P.hasNodes
    rw [hnode] at hresolves
    exact Input.of_resolveNode hresolves
  have hdrafted : c.input.Drafted node (c.input.entropyAt c.draws) unsigned digest :=
    ⟨hserves, hunsigned, hdigest⟩
  cases hsign : P.signer.sign digest with
  | error f =>
    simp only [hsign]
    exact .unsigned _ node unsigned digest f hbegins P.hasSigner hdrafted hsign
  | ok signature =>
    simp only [hsign]
    exact .delivered _ _ node unsigned digest signature _ hbegins P.hasSigner P.hasProvider
      hdrafted hsign rfl

/-- Whatever becomes of a call, it goes on in its stream of draws by as many as it has asked for. -/
theorem draws_run (hfresh : c.draws.asked = []) : c.run.2.draws = c.draws.spend c.report.asked := by
  have hspend (bounds : List Int) (h : c.run.2.draws = c.draws.spend bounds) :
      c.run.2.draws = c.draws.spend c.report.asked := by
    have hasked : c.report.asked = bounds := by simp [report, h, Draws.spend, hfresh]
    rw [hasked, h]
  cases hpassed : c.relayer.failedPrecondition? c.input with
  | some p =>
    have hrun : c.run = _ := Relayer.run_relay_of_failed hpassed
    exact hspend [] (by rw [hrun, Draws.spend_nil])
  | none =>
  obtain ⟨P⟩ := Relayer.exists_passed hpassed
  cases hnode : c.input.nodeAt c.draws with
  | error f =>
    have hrun : c.run = _ := P.run_relay_of_error hnode
    exact hspend _ (by rw [hrun])
  | ok node =>
    have hrun : c.run = _ := P.run_relay hnode
    exact hspend _ (by rw [hrun]; rfl)

end Call
end RelayClient
