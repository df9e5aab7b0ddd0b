import RelayClient.Text

/-!
# What a relay needs before any work is done
-/
namespace RelayClient

/-- The preconditions of a relay, in the order in which they are checked. -/
inductive Precondition where
  | noSigner | noProvider | noSession | noToken | sessionHasNoNodes | noSessionHeader
  | nodeNotInSession
  deriving DecidableEq

namespace Precondition

def all : List Precondition :=
  [noSigner, noProvider, noSession, noToken, sessionHasNoNodes, noSessionHeader, nodeNotInSession]

def name : Precondition → String
  | noSigner => "NO_SIGNER"
  | noProvider => "NO_PROVIDER"
  | noSession => "NO_SESSION"
  | noToken => "NO_AAT"
  | sessionHasNoNodes => "SESSION_HAS_NO_NODES"
  | noSessionHeader => "NO_SESSION_HEADER"
  | nodeNotInSession => "NODE_NOT_IN_SESSION"

def message : Precondition → String
  | noSigner => "no signer provided"
  | noProvider => "no provider provided"
  | noSession => "no session provided"
  | noToken => "no Viper AAT provided"
  | sessionHasNoNodes => "session has no nodes"
  | noSessionHeader => "no session header provided"
  | nodeNotInSession => "node not in session"

def describe (p : Precondition) : String := "RelayerError(" ++ p.name ++ ")"

def ofName? (s : String) : Option Precondition := all.find? (·.name == s)

def ofMessage? (t : Text) : Option Precondition := all.find? (Text.ofString ·.message == t)

theorem ofMessage?_message (p : Precondition) : ofMessage? (Text.ofString p.message) = some p := by
  cases p <;> decide

end Precondition
end RelayClient
