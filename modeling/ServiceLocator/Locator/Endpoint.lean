import ServiceLocator.Call.Error
import ServiceLocator.Url.Parser

/-!
Addresses of endpoints: a base address, which may end in slashes, and a path, which
begins with one.
-/
namespace ServiceLocator.Endpoint

/-- A text without the slashes at its end. -/
def trimSlashes (cs : List Char) : List Char :=
  (cs.reverse.dropWhile (· == '/')).reverse

/-- The text of a base and a path, without a double slash between them. -/
def joined (base path : String) : String :=
  String.ofList (trimSlashes base.toList ++ path.toList)

/-- The address of a path under a base. It is given as written; it only has to be an
absolute URL. -/
def join (base path : String) : Except CallError String :=
  match Url.parse (joined base path) with
  | .ok _ => .ok (joined base path)
  | .error fault => .error (.invalidUri fault.message)

/-! ## Paths -/

/-- The locator's listing. -/
def services : String := "/services"

/-- Where tokens are issued. -/
def tokens : String := "/tokens/"

/-- All sessions. -/
def sessions : String := "/sessions/"

/-- One session. -/
def session (id : String) : String := sessions ++ id

/-- The datasets of a session. -/
def datasets (session : String) : String := sessions ++ session ++ "/datasets/"

/-- One dataset of a session. -/
def dataset (session id : String) : String := datasets session ++ id

end ServiceLocator.Endpoint
