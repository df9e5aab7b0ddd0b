import RelayClient.Fault
import RelayClient.Secp256k1

/-!
# Account keys and addresses
-/
namespace RelayClient

/-- The bytes a hexadecimal text writes; any other value is refused. -/
def decodeHex : Value → Except Fault Bytes
  | .text t => match Hex.decode? t with
    | some bytes => .ok bytes
    | none => .error (.hexMalformed t)
  | _ => .error .hexNotText

inductive Scheme where
  | ed25519 | secp256k1
  deriving DecidableEq

def Scheme.name : Scheme → String
  | ed25519 => "ed25519"
  | secp256k1 => "secp256k1"

structure PublicKey where
  scheme : Scheme
  bytes : Bytes
  deriving DecidableEq

namespace PublicKey

/-- The length of a key tells its scheme. Points of secp256k1 have to lie on the curve; for ed25519
the length is all that is checked. -/
def ofBytes (bytes : Bytes) : Except Fault PublicKey :=
  if bytes.length = 32 then .ok ⟨.ed25519, bytes⟩
  else if bytes.length = 33 then
    if Secp256k1.isCompressedPoint bytes then .ok ⟨.secp256k1, bytes⟩ else .error .secp256k1Key
  else .error (.publicKeyLength bytes.length)

def parse (v : Value) : Except Fault PublicKey := do ofBytes (← decodeHex v)

def hex (k : PublicKey) : Text := Hex.encode k.bytes

end PublicKey

/-- The account address of an ed25519 key. -/
def addressOf (key : Bytes) : Except Fault Bytes :=
  if key.length = 32 then .ok ((Sha2.sha256 key).take 20) else .error .addressKeyLength

end RelayClient
