import ServiceLocator.Http.Headers
import ServiceLocator.Text.Base64
import ServiceLocator.Text.Numeral

/-!
Basic credentials. Passwords and session tokens travel in the same scheme; a token
goes under a principal of its own.
-/
namespace ServiceLocator.Credential

/-- The header that carries credentials. -/
def headerName : String := "Authorization"

/-- The principal that marks the secret as a session token. -/
def tokenPrincipal : String := "token"

/-- The value of a principal and a secret. -/
def basic (principal secret : String) : String :=
  "Basic " ++ Base64.encode (Utf8.encode (principal ++ ":" ++ secret))

/-- Headers with these credentials and no others. -/
def attach (principal secret : String) (h : Headers) : Headers :=
  (h.filter (!sameName · headerName)).insert headerName (basic principal secret)

/-- Headers with a session token and no other credentials. -/
def attachToken (token : String) (h : Headers) : Headers :=
  attach tokenPrincipal token h

/-- The value of a range header for the bytes from the first to `max`. -/
def byteRange (max : UInt64) : String := "bytes=0-" ++ Numeral.text max.toNat

end ServiceLocator.Credential
