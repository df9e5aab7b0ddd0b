import RelayClient.SignedProof

/-!
# Relaying

A relay checks its preconditions, settles on a node, has a proof signed and hands it to the
provider. Nothing is retried, and a failing step is the last one.
-/
namespace RelayClient

structure RelayOutput where
  response : Text := []
  signature : Text := []

/-- What a provider did with a relay: its effects and the outcome. -/
structure Delivery where
  outcome : Except Fault RelayOutput
  sent : List Sent := []
  logs : List LogRecord := []

/-- Whoever takes a relay to its servicer. -/
structure Provider where
  relay : Handover → Delivery

structure Relayer where
  signer : Option Signer
  provider : Option Provider

structure Output where
  relayOutput : RelayOutput
  proof : Proof
  node : Node

/-- The first precondition that fails before a node is looked for. -/
def Relayer.failedPrecondition? (r : Relayer) (i : Input) : Option Precondition :=
  if r.signer.isNone then some .noSigner
  else if r.provider.isNone then some .noProvider
  else match i.session with
    | none => some .noSession
    | some session =>
      if i.token.isNone then some .noToken
      else if session.nodes.isEmpty then some .sessionHasNoNodes
      else if session.header.isNone then some .noSessionHeader
      else none

def Provider.deliver (p : Provider) (node : Node) (input : RelayInput) (options : Option Options) :
    Relaying RelayOutput := do
  let handover : Handover := ⟨node.serviceUrl, input, options⟩
  let delivery := p.relay handover
  modify fun journal => { journal with
    handed := journal.handed ++ [handover]
    sent := journal.sent ++ delivery.sent
    logs := journal.logs ++ delivery.logs }
  match delivery.outcome with
  | .ok output => return output
  | .error f =>
    log .relayer .warning (Text.ofString "relay to servicer " ++ node.publicKey.display ++
      Text.ofString " failed: " ++ f.message)
    throw f

def Relayer.relay (r : Relayer) (i : Input) (options : Option Options) : Relaying Output := do
  match r.failedPrecondition? i with
  | some p => throw (.precondition p)
  | none =>
    let node ← i.resolveNode
    log .relayer .debug (Text.ofString "relaying " ++ i.blockchain.display ++
      Text.ofString " request to servicer " ++ node.publicKey.display)
    let entropy ← draw entropyBound
    let proof ← buildSignedProof r.signer (some node) i (.int entropy)
    let metadata ← attempt i.metadata
    match r.provider with
    | none => throw (.precondition .noProvider)
    | some provider =>
      let relayOutput ← provider.deliver node ⟨i.payload, metadata, proof⟩ options
      return ⟨relayOutput, proof, node⟩

namespace Provider

/-- Takes the body of a relay as handed over; a relay without a canonical body is a fault. -/
def handOver (outcome : Except Fault RelayOutput) : Provider where
  relay h :=
    match h.input.toValue >>= canonicalBytes with
    | .error f => ⟨.error f, [], []⟩
    | .ok body => ⟨outcome, [.taken h.url body h.options], []⟩

def fixed (output : RelayOutput) : Provider := handOver (.ok output)

def broken (message : Text) : Provider := handOver (.error (.broken message))

end Provider
end RelayClient
