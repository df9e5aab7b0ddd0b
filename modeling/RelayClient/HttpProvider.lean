import RelayClient.Response
import RelayClient.Settings

/-!
# The HTTP provider
-/
namespace RelayClient

/-- What comes of a request that is posted: an answer, or a fault of the connection or of a header. -/
abbrev Transport := Except Fault Response

structure HttpProvider where
  timeout : Value := .float Settings.defaultTimeout
  userAgent : Text := Settings.defaultUserAgent
  isClosed : Bool := false

namespace HttpProvider

def close (p : HttpProvider) : HttpProvider := { p with isClosed := true }

/-- Option headers replace those of exactly the same name and come after the others. -/
def headers (p : HttpProvider) (options : Option Options) : Entries :=
  let own : Entries := [("Content-Type", "application/json"), ("User-Agent", .text p.userAgent)]
  match options with
  | none => own
  | some o => o.headers.foldl (fun es h => es.set h.1 h.2) own

def timeoutFor (p : HttpProvider) (options : Option Options) : Value :=
  match options with
  | some ⟨.null, _⟩ | none => p.timeout
  | some o => o.timeout

/-- The relay route at the URL of a node, whose trailing slashes do not count. -/
def relayUrl : Value → Except Fault Text
  | .text t => .ok (t.dropTrailing '/' ++ Text.ofString Settings.relayRoute)
  | .bytes _ => .error (.notBytes .text)
  | v => .error (.noAttribute v.kind "rstrip")

/-- Posts a relay to its node and judges the answer. -/
def relay (p : HttpProvider) (transport : Transport) (h : Handover) : Delivery :=
  match relayUrl h.url, h.input.toValue >>= canonicalBytes with
  | .error f, _ => ⟨.error f, [], []⟩
  | _, .error f => ⟨.error f, [], []⟩
  | .ok url, .ok body =>
    let sent := [Sent.posted url body (p.headers h.options) (p.timeoutFor h.options)]
    match transport with
    | .error f => ⟨.error f, sent, []⟩
    | .ok response =>
      let (outcome, logs) := response.verdict h.input.proof.servicerPublicKey
      ⟨outcome, sent, logs⟩

def toProvider (p : HttpProvider) (transport : Transport) : Provider := ⟨p.relay transport⟩

end HttpProvider
end RelayClient
