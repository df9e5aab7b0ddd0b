import RelayClient.Draws
import RelayClient.RelayDocument

/-!
# The effects of a relay

A relay draws numbers, has payloads signed, is handed to a provider, sends bodies and logs. The
journal keeps them in order, also when the relay fails half-way.
-/
namespace RelayClient

inductive LogSource where
  | relayer | provider
  deriving DecidableEq

def LogSource.name : LogSource → String
  | relayer => "viper.relayer"
  | provider => "viper.provider"

inductive LogLevel where
  | debug | warning
  deriving DecidableEq

def LogLevel.name : LogLevel → String
  | debug => "DEBUG"
  | warning => "WARNING"

structure LogRecord where
  source : LogSource
  level : LogLevel
  text : Text

/-- Transport overrides of one relay. -/
structure Options where
  timeout : Value := .null
  headers : Entries := []

/-- A relay as it is handed to a provider. -/
structure Handover where
  url : Value
  input : RelayInput
  options : Option Options

/-- A body on its way: taken by a provider as it is, or posted over HTTP. -/
inductive Sent where
  | taken (url : Value) (body : Bytes) (options : Option Options)
  | posted (url : Text) (body : Bytes) (headers : Entries) (timeout : Value)

structure Journal where
  draws : Draws
  signed : List Bytes := []
  handed : List Handover := []
  sent : List Sent := []
  logs : List LogRecord := []

/-- Work that may fail and whose effects stay in the journal all the same. -/
abbrev Relaying := ExceptT Fault (StateM Journal)

/-- A step of the work that has no effects. -/
def attempt {α : Type} : Except Fault α → Relaying α
  | .ok a => pure a
  | .error f => throw f

def draw (bound : Int) : Relaying Int := do
  let journal ← get
  let (result, draws) := journal.draws.below bound
  set { journal with draws }
  attempt result

def log (source : LogSource) (level : LogLevel) (text : Text) : Relaying PUnit :=
  modify fun journal => { journal with logs := journal.logs ++ [⟨source, level, text⟩] }

end RelayClient
