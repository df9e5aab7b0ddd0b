import RelayClient.RelayDocument
import RelayClient.Sha3

/-!
# The hashes of a relay

Servicers compute the same values from what they receive.
-/
namespace RelayClient

def canonicalHash (v : Value) : Except Fault Bytes := return Sha3.hash (← canonicalBytes v)

def canonicalHex (v : Value) : Except Fault Text := return Hex.encode (← canonicalHash v)

/-- The hash of a token, whose own signature does not count. -/
def Token.hash (t : Token) : Except Fault Text := canonicalHex t.unsigned.toValue

def Request.hash (r : Request) : Except Fault Text := do canonicalHex (← r.toValue)

namespace Proof

/-- The document that the signature of a proof covers: the token is there by its hash, and the
signature is empty. -/
def signable (p : Proof) : Except Fault Value := do
  match p.token with
  | none => throw (.noAttribute .null "unsigned")
  | some token => return .record [
      ("entropy", p.entropy),
      ("session_block_height", p.sessionBlockHeight),
      ("servicer_pub_key", p.servicerPublicKey),
      ("blockchain", p.blockchain),
      ("signature", ""),
      ("token", .text (← token.hash)),
      ("request_hash", p.requestHash)]

/-- The 32 bytes that are signed. -/
def digest (p : Proof) : Except Fault Bytes := do canonicalHash (← p.signable)

end Proof
end RelayClient
