import RelayClient.Fault
import RelayClient.Numeral

/-!
# Settings from the environment
-/
namespace RelayClient

structure Settings where
  timeout : Binary64
  verifyTls : Bool
  userAgent : Text

namespace Settings

/-- Where a node takes relays. -/
def relayRoute : String := "/v1/client/relay"

def defaultUserAgent : String := "viper-relay/0.1.0"

/-- Ten seconds. -/
def defaultTimeout : Binary64 := .ofRatio false 10 1

/-- TLS is verified unless the variable is exactly a zero. -/
def load (environment : String → Option Text) : Except Fault Settings :=
  let verifyTls := (environment "VIPER_VERIFY_TLS").all (· != Text.ofString "0")
  let userAgent := (environment "VIPER_USER_AGENT").getD defaultUserAgent
  match environment "VIPER_REQUEST_TIMEOUT_S" with
  | none => .ok ⟨defaultTimeout, verifyTls, userAgent⟩
  | some t => match Numeral.float? t with
    | some timeout => .ok ⟨timeout, verifyTls, userAgent⟩
    | none => .error (.floatLiteral t)

end Settings
end RelayClient
