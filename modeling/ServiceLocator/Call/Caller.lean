import ServiceLocator.Text.Quoted

/-!
Who is calling. An external caller reaches services through their public addresses,
an internal one through their internal addresses; both know where the locator is.
-/
namespace ServiceLocator

/-- A caller and the address of its locator. -/
inductive Caller where
  | external (locator : String)
  | internal (locator : String)
deriving DecidableEq

namespace Caller

/-- The address of the locator. -/
def locator : Caller → String
  | .external locator => locator
  | .internal locator => locator

/-- Whether the caller is on the outside. -/
def isExternal : Caller → Bool
  | .external _ => true
  | .internal _ => false

/-- The caller in a diagnostic. -/
def shown (c : Caller) : String :=
  (if c.isExternal then "External" else "Internal") ++
    " \x7b locator_url: " ++ Quoted.text c.locator ++ " \x7d"

end Caller

/-- A caller with its session token, if it has one. -/
structure Identity where
  caller : Caller
  token : Option String
deriving DecidableEq

/-- The identity in a diagnostic. The token is not shown. -/
def Identity.shown (i : Identity) : String :=
  "ClientIdentity \x7b role: " ++ i.caller.shown ++ ", token: " ++
    (match i.token with
      | some _ => "Some(\"<redacted>\")"
      | none => "None") ++ " \x7d"

end ServiceLocator
