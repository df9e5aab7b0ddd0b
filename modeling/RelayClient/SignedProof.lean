import RelayClient.Digest
import RelayClient.KeyPair
import RelayClient.Selection

/-!
# Signed proofs
-/
namespace RelayClient

/-- Whoever signs the digests of proofs. -/
structure Signer where
  sign : Bytes → Except Fault Value

namespace Input

def payload (i : Input) : Payload := ⟨i.data, i.method, i.path, i.headers⟩

/-- The height of the session that a relay belongs to. -/
def sessionHeight (i : Input) : Except Fault Value :=
  match i.session with
  | none => .error (.noAttribute .null "header")
  | some session => match session.header with
    | none => .error (.noAttribute .null "session_height")
    | some header => .ok header.sessionHeight

def metadata (i : Input) : Except Fault Metadata := return ⟨← i.sessionHeight⟩

/-- The proof of a relay by a node, still without a signature. -/
def unsignedProof (i : Input) (node : Option Node) (entropy : Value) : Except Fault Proof := do
  let metadata ← i.metadata
  let requestHash ← Request.hash ⟨i.payload, metadata⟩
  match node with
  | none => throw (.noAttribute .null "public_key")
  | some node => return {
      requestHash := .text requestHash
      entropy
      sessionBlockHeight := metadata.blockHeight
      servicerPublicKey := node.publicKey
      blockchain := i.blockchain
      token := i.token }

end Input

/-- Hands a payload to the signer, which is an effect whether or not it succeeds. -/
def Signer.signPayload (s : Signer) (payload : Bytes) : Relaying Value := do
  modify fun journal => { journal with signed := journal.signed ++ [payload] }
  attempt (s.sign payload)

/-- The signed proof carries the fields that its signature covers. -/
def buildSignedProof (signer : Option Signer) (node : Option Node) (i : Input) (entropy : Value) :
    Relaying Proof := do
  let unsigned ← attempt (i.unsignedProof node entropy)
  match signer with
  | none => throw (.noAttribute .null "sign")
  | some signer =>
    let signature ← signer.signPayload (← attempt unsigned.digest)
    return { unsigned with signature }

namespace Signer

def ofKeyPair (k : KeyPair) : Signer := ⟨fun payload => .ok (.text (k.sign payload))⟩

def fixed (signature : Value) : Signer := ⟨fun _ => .ok signature⟩

def broken (message : Text) : Signer := ⟨fun _ => .error (.broken message)⟩

end Signer
end RelayClient
