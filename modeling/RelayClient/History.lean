import RelayClient.Relayer

/-!
# Histories of relays

One client relays again and again, its signer, its provider and its input changing in between,
while all draws come from one stream.
-/
namespace RelayClient

structure Client where
  relayer : Relayer := ⟨none, none⟩
  input : Input := {}
  draws : Draws

inductive Step where
  | signer (s : Option Signer)
  | provider (p : Option Provider)
  | edit (change : Input → Input)
  | relay (options : Option Options)

/-- What one relay did. -/
structure Report where
  outcome : Except Fault Output
  asked : List Int
  signed : List Bytes
  handed : List Handover
  sent : List Sent
  logs : List LogRecord

namespace Client

/-- A relay of the client as it is now; its draws go on where the last ones ended. -/
def relay (c : Client) (options : Option Options) : Report × Client :=
  let (outcome, journal) := (c.relayer.relay c.input options).run { draws := { c.draws with asked := [] } }
  (⟨outcome, journal.draws.asked, journal.signed, journal.handed, journal.sent, journal.logs⟩,
    { c with draws := journal.draws })

def step (c : Client) : Step → Option Report × Client
  | .signer s => (none, { c with relayer := { c.relayer with signer := s } })
  | .provider p => (none, { c with relayer := { c.relayer with provider := p } })
  | .edit change => (none, { c with input := change c.input })
  | .relay options =>
    let (report, c) := c.relay options
    (some report, c)

/-- One answer for each step. -/
def run (c : Client) : List Step → List (Option Report)
  | [] => []
  | s :: r => (c.step s).1 :: run (c.step s).2 r

end Client
end RelayClient
