import RelayClient.PublicKey
import RelayClient.SignatureCheck

/-!
# Reading a key step by step

The digits of a key are read first. Then its bytes are checked as a key of ed25519 or as a point of
secp256k1, whichever their number says. A handler around each step takes the faults of some categories
and reports one fault in their place; any other fault would end the reading as it is.
-/
namespace RelayClient

/-- What can go wrong while a key is read. -/
inductive KeyFault where
  | digits (f : CheckFault)
  | keyLength
  | ed25519Key
  | malformedPoint
  | reported (f : Fault)

/-- The categories of these faults. A malformed point is an assertion, in a category of its own. -/
inductive KeyCategory where
  | plain (c : Category)
  | malformedPoint
  deriving DecidableEq

def KeyCategory.isWithin : KeyCategory → KeyCategory → Bool
  | plain c, plain wide => c.isWithin wide
  | malformedPoint, plain wide => Category.assertion.isWithin wide
  | malformedPoint, malformedPoint => true
  | plain _, malformedPoint => false

namespace KeyFault

def category : KeyFault → KeyCategory
  | digits f => .plain f.category
  | keyLength => .plain .cryptographicValue
  | ed25519Key => .plain .value
  | malformedPoint => .malformedPoint
  | reported f => .plain f.category

def isAmong (f : KeyFault) (caught : List KeyCategory) : Bool := caught.any f.category.isWithin

end KeyFault

namespace KeyReading

/-- Work whose faults in some categories are reported as another one. -/
def reporting {α : Type} (caught : List KeyCategory) (instead : KeyFault)
    (work : Except KeyFault α) : Except KeyFault α :=
  work.mapError fun f => if f.isAmong caught then instead else f

/-- The digits are read like those of a signature. -/
def decode : Value → Except KeyFault Bytes
  | .text t => reporting [.plain .hexadecimal, .plain .value] (.reported (.hexMalformed t))
      ((SignatureCheck.readSignature (.text t)).mapError .digits)
  | _ => .error (.reported .hexNotText)

/-- Any 32 bytes make a key to check signatures under. -/
def checkEd25519 (bytes : Bytes) : Except KeyFault Unit :=
  if bytes.length = 32 then .ok ⟨⟩ else .error .keyLength

def checkSecp256k1 (bytes : Bytes) : Except KeyFault Unit :=
  if Secp256k1.isCompressedPoint bytes then .ok ⟨⟩ else .error .malformedPoint

def ofBytes (bytes : Bytes) : Except KeyFault PublicKey := do
  if bytes.length = 32 then
    reporting [.plain .cryptography, .plain .type, .plain .value] .ed25519Key (checkEd25519 bytes)
    return ⟨.ed25519, bytes⟩
  else if bytes.length = 33 then
    reporting [.malformedPoint, .plain .value] (.reported .secp256k1Key) (checkSecp256k1 bytes)
    return ⟨.secp256k1, bytes⟩
  else throw (.reported (.publicKeyLength bytes.length))

def parse (v : Value) : Except KeyFault PublicKey := do ofBytes (← decode v)

end KeyReading
end RelayClient
