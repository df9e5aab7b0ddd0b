import RelayClient.PublicKey

/-!
# Ed25519 key pairs

A private key is written as its seed followed by the public key; the seed alone is read as well.
-/
namespace RelayClient

structure KeyPair where
  seed : Bytes
  deriving DecidableEq

namespace KeyPair

def publicBytes (k : KeyPair) : Bytes := Ed25519.publicKey k.seed

def ofPrivateBytes (bytes : Bytes) : Except Fault KeyPair :=
  if bytes.length = 32 then .ok ⟨bytes⟩
  else if bytes.length = 64 then
    let k : KeyPair := ⟨bytes.take 32⟩
    if bytes.drop 32 = k.publicBytes then .ok k else .error .privateKeyMismatch
  else .error .privateKeyLength

def ofPrivateKey (v : Value) : Except Fault KeyPair := do ofPrivateBytes (← decodeHex v)

def publicKey (k : KeyPair) : Text := Hex.encode k.publicBytes

def privateKey (k : KeyPair) : Text := Hex.encode (k.seed ++ k.publicBytes)

def address (k : KeyPair) : Except Fault Text := return Hex.encode (← addressOf k.publicBytes)

def describe (k : KeyPair) : Except Fault Text :=
  return Text.ofString "KeySigner(address=" ++ (← k.address) ++ [(')' : CodePoint)]

/-- The signature of a payload, in hexadecimal. -/
def sign (k : KeyPair) (payload : Bytes) : Text := Hex.encode (Ed25519.sign k.seed payload)

end KeyPair

/-- The bytes of a signature, written in hexadecimal as text or as ASCII bytes. -/
def signatureBytes? : Value → Option Bytes
  | .text t => Hex.decode? t
  | .bytes b => Hex.decode? (b.map fun x => CodePoint.ofNat x.toNat)
  | _ => none

/-- Whether a value is a valid signature of a message under a key; malformed ones are just invalid. -/
def verifySignature (key : Value) (message : Bytes) (signature : Value) : Bool :=
  match decodeHex key, signatureBytes? signature with
  | .ok key, some signature => Ed25519.verify key message signature
  | _, _ => false

end RelayClient
