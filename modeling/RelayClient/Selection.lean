import RelayClient.Session
import RelayClient.RelayDocument
import RelayClient.Journal

/-!
# Which node serves a relay
-/
namespace RelayClient

/-- Everything a caller provides for one relay. -/
structure Input where
  blockchain : Value := ""
  data : Value := ""
  headers : Option Entries := none
  method : Value := ""
  node : Option Node := none
  path : Value := ""
  session : Option Session := none
  token : Option Token := none

namespace Session

/-- Whether a node of the session has the same public key. -/
def hasNode (s : Session) (n : Node) : Bool := s.nodes.any fun m => m.publicKey.same n.publicKey

/-- A node of the session, all equally likely. -/
def randomNode (s : Session) : Relaying Node := do
  let index ← draw s.nodes.length
  match s.nodes[index.toNat]? with
  | some node => return node
  | none => throw (.noPosition .tuple)

end Session

/-- The caller's node, which has to belong to the session, or else a random one. -/
def Input.resolveNode (i : Input) : Relaying Node :=
  match i.session, i.node with
  | none, _ => throw (.noAttribute .null "nodes")
  | some session, none => session.randomNode
  | some session, some node =>
    if session.hasNode node then return node else throw (.precondition .nodeNotInSession)

end RelayClient
