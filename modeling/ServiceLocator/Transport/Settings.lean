import ServiceLocator.Call.Error
import ServiceLocator.Http.Field
import ServiceLocator.Url.Parser

/-!
Settings of an HTTP transport, and which of them are in order.
-/
namespace ServiceLocator

/-- Settings of an HTTP transport. Times are in milliseconds; no proxy is an empty
text. -/
structure HttpSettings where
  requestTimeout : UInt64
  connectTimeout : UInt64
  proxy : String
  userAgent : String
  logging : Bool
deriving DecidableEq

namespace HttpSettings

/-- The settings of a transport for which none are given. -/
def default : HttpSettings := ⟨30000, 10000, "", "locator_rest_client/0.1.0", true⟩

/-- Whether a text is the URL of a proxy: one with a host, or one that lacks only
its scheme. -/
def isProxy (text : String) : Bool :=
  let bare := match Url.parse ("http://" ++ text) with
    | .ok url => url.hasHost
    | .error _ => false
  match Url.parse text with
  | .ok url => url.hasHost || bare
  | .error .relative => bare
  | .error _ => false

/-- Settings of which a transport can be built. The proxy is checked first. -/
def check (s : HttpSettings) : Except CallError Unit :=
  if s.proxy ≠ "" ∧ !isProxy s.proxy then .error (.config "invalid proxy url: builder error")
  else if !Field.isValue s.userAgent then
    .error (.config "failed to build http client: builder error")
  else .ok ()

end HttpSettings

end ServiceLocator
