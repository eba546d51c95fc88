import ServiceLocator.Url.Basic
import ServiceLocator.Url.Domain
import ServiceLocator.Url.Percent

/-!
Reading the host of a URL. Special schemes take a domain name or an address; other
schemes take any text without characters that have a meaning in a URL.
-/
namespace ServiceLocator.Url.Host

/-- The text between the brackets that a host begins and ends with; `none` if it
does not begin with one. -/
def bracketed? : List Char → Option (Except Fault (List Char))
  | '[' :: rest =>
    some (if rest.getLast? = some ']' then .ok rest.dropLast else .error .invalidIpv6)
  | _ => none

/-- An address in brackets. -/
def ofBracketed (inner : Except Fault (List Char)) : Except Fault Host := do
  match Ipv6.parse? (← inner) with
  | some pieces => .ok (.ipv6 pieces)
  | none => .error .invalidIpv6

/-- The host of a special scheme. -/
def parse (cs : List Char) : Except Fault Host :=
  match bracketed? cs with
  | some inner => ofBracketed inner
  | none =>
    match Domain.toAscii? (percentDecode cs) with
    | none => .error .invalidDomain
    | some name =>
      if name = "" then .error .emptyHost
      else if Ipv4.endsInNumber name.toList then
        match Ipv4.parse? name.toList with
        | some address => .ok (.ipv4 address)
        | none => .error .invalidIpv4
      else .ok (.domain name)

/-- Characters that a host without a meaning cannot hold. -/
def isForbidden (c : Char) : Bool :=
  "\x00\t\n\r #/:<>?@[\\]^|".toList.contains c

/-- The host of a scheme that gives hosts no meaning. -/
def parseLiteral (cs : List Char) : Except Fault Host :=
  match bracketed? cs with
  | some inner => ofBracketed inner
  | none =>
    if cs.any isForbidden then .error .invalidHostCharacter
    else .ok (.literal (percentEncode controls cs))

end ServiceLocator.Url.Host
