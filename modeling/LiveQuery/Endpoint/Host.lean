import LiveQuery.Endpoint.DomainName
import LiveQuery.Endpoint.Ipv4
import LiveQuery.Endpoint.Ipv6

/-!
# Hosts

The host of a URL: a domain name or an address. A name is percent-decoded and brought into its
ASCII form. A host in brackets is an address of version 6, and a host that ends in a number is one
of version 4. URLs that no web protocol defines have opaque hosts, which are only checked.
-/

namespace LiveQuery

/-- What is wrong with a URL. -/
inductive UrlError where
  | noScheme
  | emptyHost
  | badDomain
  | badOpaqueHost
  | badPort
  | badIpv4
  | badIpv6
deriving DecidableEq, Repr, Inhabited

/-- The wording of a URL error. -/
def UrlError.message : UrlError → String
  | .noScheme => "relative URL without a base"
  | .emptyHost => "empty host"
  | .badDomain => "invalid international domain name"
  | .badOpaqueHost => "invalid domain character"
  | .badPort => "invalid port number"
  | .badIpv4 => "invalid IPv4 address"
  | .badIpv6 => "invalid IPv6 address"

/-- The host of a URL. -/
inductive Host where
  | domain (name : String)
  | ipv4 (address : Nat)
  | ipv6 (pieces : List Nat)
deriving DecidableEq, Repr, Inhabited

namespace Host

/-- A host in brackets, after the first one. -/
def parseBracketed (cs : List Char) : Except UrlError Host :=
  if cs.getLast? = some ']' then
    match Ipv6.parse? cs.dropLast with
    | some pieces => .ok (.ipv6 pieces)
    | none => .error .badIpv6
  else .error .badIpv6

/-- The host of a web URL. -/
def parse : List Char → Except UrlError Host
  | '[' :: cs => parseBracketed cs
  | cs =>
    match DomainName.ofBytes? (Percent.decode (Utf8.encode cs)) with
    | none => .error .badDomain
    | some [] => .error .emptyHost
    | some name =>
      if Ipv4.endsInNumber name then
        match Ipv4.parse? name with
        | some address => .ok (.ipv4 address)
        | none => .error .badIpv4
      else .ok (.domain (String.ofList name))

/-- Checks the host of any other URL. -/
def checkOpaque : List Char → Except UrlError Unit
  | '[' :: cs => (parseBracketed cs).map fun _ => ()
  | cs =>
    if cs.any fun c => c = '\x00' || c = ' ' || DomainName.isDelimiter c then
      .error .badOpaqueHost
    else
      .ok ()

/-- The text of a host. -/
def write : Host → List Char
  | .domain name => name.toList
  | .ipv4 address => Ipv4.write address
  | .ipv6 pieces => '[' :: Ipv6.write pieces ++ [']']

end Host

end LiveQuery
