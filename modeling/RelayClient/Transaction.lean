import RelayClient.Conversion
import RelayClient.PublicKey

/-!
# Transaction messages

A message is built from hexadecimal addresses and keys; nothing else about it is checked. Of several
faults the first in the order of the fields is reported.
-/
namespace RelayClient

inductive Message where
  | send (source target : Bytes) (amount : Value)
  | stakeApp (key : PublicKey) (chains : List Value) (amount : Value)
  | beginUnstakeApp (address : Bytes)
  | unjailApp (address : Bytes)
  | stakeNode (key : PublicKey) (chains : List Value) (amount serviceUrl : Value) (output : Bytes)
  | beginUnstakeNode (operator signer : Bytes)
  | unjailNode (operator signer : Bytes)

namespace Message

def newSend (source target amount : Value) : Except Fault Message := do
  let source ← decodeHex source
  let target ← decodeHex target
  return .send source target amount

def newStakeApp (key chains amount : Value) : Except Fault Message := do
  let key ← PublicKey.parse key
  let chains ← chains.elements
  return .stakeApp key chains amount

def newUnstakeApp (address : Value) : Except Fault Message := return .beginUnstakeApp (← decodeHex address)

def newUnjailApp (address : Value) : Except Fault Message := return .unjailApp (← decodeHex address)

/-- The output address receives the rewards of the node. -/
def newStakeNode (key serviceUrl output chains amount : Value) : Except Fault Message := do
  let key ← PublicKey.parse key
  let chains ← chains.elements
  let output ← decodeHex output
  return .stakeNode key chains amount serviceUrl output

def newUnstakeNode (signer operator : Value) : Except Fault Message := do
  let signer ← decodeHex signer
  let operator ← decodeHex operator
  return .beginUnstakeNode operator signer

def newUnjailNode (signer operator : Value) : Except Fault Message := do
  let signer ← decodeHex signer
  let operator ← decodeHex operator
  return .unjailNode operator signer

def name : Message → String
  | send .. => "MsgSend"
  | stakeApp .. => "MsgStakeApp"
  | beginUnstakeApp _ => "MsgBeginUnstakeApp"
  | unjailApp _ => "MsgUnjailApp"
  | stakeNode .. => "MsgStakeNode"
  | beginUnstakeNode .. => "MsgBeginUnstakeNode"
  | unjailNode .. => "MsgUnjailNode"

def hexValue (b : Bytes) : Value := .text (Hex.encode b)

/-- The fields of a message as they are written, amounts as text. -/
def fields : Message → List (String × Value)
  | send source target amount => [
      ("from_address", hexValue source),
      ("to_address", hexValue target),
      ("amount", .text amount.display)]
  | stakeApp key chains amount => [
      ("pubkey", .text key.hex),
      ("chains", .array chains),
      ("value", .text amount.display)]
  | beginUnstakeApp address => [("application_address", hexValue address)]
  | unjailApp address => [("address", hexValue address)]
  | stakeNode key chains amount serviceUrl output => [
      ("public_key", .text key.hex),
      ("chains", .array chains),
      ("value", .text amount.display),
      ("service_url", serviceUrl),
      ("output_address", hexValue output)]
  | beginUnstakeNode operator signer => [
      ("validator_address", hexValue operator),
      ("signer_address", hexValue signer)]
  | unjailNode operator signer => [
      ("address", hexValue operator),
      ("signer_address", hexValue signer)]

end Message
end RelayClient
