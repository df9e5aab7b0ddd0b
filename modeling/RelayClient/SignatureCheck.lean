import RelayClient.Category
import RelayClient.KeyPair

/-!
# Checking a signature step by step

The key and the signature are read first, and then the one is checked under the other. Each step may
fail. The faults of some categories mean that the signature is not valid; any other would end the
check.
-/
namespace RelayClient

/-- What can go wrong while a signature is checked. -/
inductive CheckFault where
  | key (f : Fault)
  | keyLength
  | signatureKind (k : Kind)
  | signatureNotAscii
  | signatureOddLength
  | signatureNotHex
  | signatureLength
  | forged

namespace CheckFault

def category : CheckFault → Category
  | key f => f.category
  | keyLength | signatureLength => .cryptographicValue
  | signatureKind _ => .type
  | signatureNotAscii => .value
  | signatureOddLength | signatureNotHex => .hexadecimal
  | forged => .forgery

def isAmong (f : CheckFault) (caught : List Category) : Bool := caught.any f.category.isWithin

end CheckFault

namespace SignatureCheck

variable {α β : Type}

/-- Goes on with what some work gives, or with another result if it fails in one of the categories. -/
def handling (caught : List Category) (fallback : β) (work : Except CheckFault α)
    (next : α → Except CheckFault β) : Except CheckFault β :=
  match work with
  | .ok a => next a
  | .error f => if f.isAmong caught then .ok fallback else .error f

/-- A key to check signatures under has 32 bytes. -/
def readKey (v : Value) : Except CheckFault Bytes :=
  match decodeHex v with
  | .ok bytes => if bytes.length = 32 then .ok bytes else .error .keyLength
  | .error f => .error (.key f)

def readDigits (t : Text) : Except CheckFault Bytes :=
  if t.length % 2 = 1 then .error .signatureOddLength
  else match Hex.decode? t with
    | some bytes => .ok bytes
    | none => .error .signatureNotHex

/-- The bytes of a signature, which is written in hexadecimal as text or as ASCII bytes. -/
def readSignature : Value → Except CheckFault Bytes
  | .text t => if t.all (·.val < 0x80) then readDigits t else .error .signatureNotAscii
  | .bytes b => readDigits (b.map fun x => CodePoint.ofNat x.toNat)
  | v => .error (.signatureKind v.kind)

def verify (key message signature : Bytes) : Except CheckFault Unit :=
  if signature.length ≠ 64 then .error .signatureLength
  else if Ed25519.verify key message signature then .ok ⟨⟩ else .error .forged

end SignatureCheck

open SignatureCheck in
/-- Whether a value is a valid signature of a message under a key. -/
def checkSignature (key : Value) (message : Bytes) (signature : Value) : Except CheckFault Bool :=
  let material := do return (← readKey key, ← readSignature signature)
  handling [.cryptography, .type, .value, .hexadecimal] false material fun m =>
    handling [.forgery, .cryptography, .value] false (verify m.1 message m.2) fun _ => .ok true

end RelayClient
