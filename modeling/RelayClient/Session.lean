import RelayClient.Conversion

/-!
# Sessions and their nodes

A dispatch answer describes a session loosely; what it leaves out has a default, and what it holds
is converted. A field that holds null is not left out.
-/
namespace RelayClient

/-- A servicer endpoint, identified by its public key. -/
structure Node where
  publicKey : Value
  serviceUrl : Value := ""
  address : Value := ""
  chains : List Value := []

structure SessionHeader where
  appPublicKey : Value := ""
  chain : Value := ""
  sessionHeight : Value := .int 0

structure Session where
  header : Option SessionHeader := none
  nodes : List Node := []
  key : Value := ""

/-- A field as text. -/
def textField (v : Value) (key : String) : Except Fault Value :=
  return .text ((← v.get? key).getD "").display

/-- The members of a field; an empty or false one has none. -/
def elementsField (v : Value) (key : String) : Except Fault (List Value) := do
  match ← v.get? key with
  | none => return []
  | some w => if w.isTruthy then w.elements else return []

def Node.ofValue (v : Value) : Except Fault Node := do
  let publicKey ← textField v "public_key"
  let serviceUrl ← textField v "service_url"
  let address ← textField v "address"
  let chains ← elementsField v "chains"
  return ⟨publicKey, serviceUrl, address, chains⟩

def SessionHeader.ofValue (v : Value) : Except Fault SessionHeader := do
  let appPublicKey ← textField v "app_public_key"
  let chain ← textField v "chain"
  let height ← ((← v.get? "session_height").getD (.int 0)).toInteger
  return ⟨appPublicKey, chain, .int height⟩

/-- A session has no header if the answer gives none or null. -/
def Session.headerOf : Option Value → Except Fault (Option SessionHeader)
  | none | some .null => return none
  | some v => return some (← SessionHeader.ofValue v)

def Session.ofValue (v : Value) : Except Fault Session := do
  let header ← headerOf (← v.get? "header")
  let nodes ← (← elementsField v "nodes").mapM Node.ofValue
  let key ← textField v "key"
  return ⟨header, nodes, key⟩

end RelayClient
