import RelayClient.SortedMap
import RelayClient.Canonical

/-!
# What a relay sends

Every structure has a document whose field order is part of what servicers hash.
-/
namespace RelayClient

/-- An application authentication token: it grants a client the right to relay. -/
structure Token where
  version : Value := ""
  appPublicKey : Value := ""
  clientPublicKey : Value := ""
  signature : Value := ""

namespace Token

def unsigned (t : Token) : Token := { t with signature := "" }

def toValue (t : Token) : Value := .record [
  ("version", t.version),
  ("app_pub_key", t.appPublicKey),
  ("client_pub_key", t.clientPublicKey),
  ("signature", t.signature)]

end Token

/-- The request that a node forwards to its chain. -/
structure Payload where
  data : Value := ""
  method : Value := ""
  path : Value := ""
  headers : Option Entries := none

/-- The headers of a payload are a map, so they come in key order. -/
def Payload.toValue (p : Payload) : Except Fault Value := do
  let headers ← sortedMap p.headers
  return .record [("data", p.data), ("method", p.method), ("path", p.path), ("headers", headers)]

structure Metadata where
  blockHeight : Value := .int 0

def Metadata.toValue (m : Metadata) : Value := .record [("block_height", m.blockHeight)]

/-- What the request hash commits to. -/
structure Request where
  payload : Payload
  metadata : Metadata

def Request.toValue (r : Request) : Except Fault Value := do
  let payload ← r.payload.toValue
  return .record [("payload", payload), ("meta", r.metadata.toValue)]

/-- Binds a relay to its session, its servicer and its token. -/
structure Proof where
  requestHash : Value
  entropy : Value
  sessionBlockHeight : Value
  servicerPublicKey : Value
  blockchain : Value
  token : Option Token
  signature : Value := ""

def Proof.toValue (p : Proof) : Except Fault Value := do
  match p.token with
  | none => throw (.noAttribute .null "to_json")
  | some token => return .record [
      ("request_hash", p.requestHash),
      ("entropy", p.entropy),
      ("session_block_height", p.sessionBlockHeight),
      ("servicer_pub_key", p.servicerPublicKey),
      ("blockchain", p.blockchain),
      ("aat", token.toValue),
      ("signature", p.signature)]

/-- The body of a relay. -/
structure RelayInput where
  payload : Payload
  metadata : Metadata
  proof : Proof

def RelayInput.toValue (r : RelayInput) : Except Fault Value := do
  let payload ← r.payload.toValue
  let proof ← r.proof.toValue
  return .record [("payload", payload), ("meta", r.metadata.toValue), ("proof", proof)]

/-- The canonical bytes of a value, a value without any being a fault. -/
def canonicalBytes (v : Value) : Except Fault Bytes :=
  (Canonical.encode v).mapError .unencodable

end RelayClient
