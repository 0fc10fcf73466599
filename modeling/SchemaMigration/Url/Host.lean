import SchemaMigration.Url.Domain.Basic
import SchemaMigration.Url.Encoding
import SchemaMigration.Url.Error
import SchemaMigration.Url.Ipv4
import SchemaMigration.Url.Ipv6

/-!
# Hosts

The host of a URL.  In general it is an opaque name, kept as it is written; the schemes of the web
have domain names instead, whose characters are restricted and which may be IPv4 addresses.
-/

namespace SchemaMigration.Url

/-- The characters that no opaque host name contains. -/
def isForbiddenInHost (c : Char) : Bool :=
  ['\x00', '\t', '\n', '\r', ' ', '#', '/', ':', '<', '>', '?', '@', '[', '\x5C', ']', '^',
    '|'].contains c

/-- The characters that no domain name contains. -/
def isForbiddenInDomain (c : Char) : Bool :=
  isForbiddenInHost c || c.toNat < 0x20 || c.toNat = 0x7F || c = '%'

/-- An IPv6 address in brackets, if the host starts with one. -/
def bracketed? (host : List Char) : Option (Except UrlError String) :=
  match host with
  | '[' :: rest =>
    if rest.getLast? = some ']' then
      match Ipv6.read? rest.dropLast with
      | some groups => some (.ok ("[" ++ Ipv6.text groups ++ "]"))
      | none => some (.error .invalidIpv6)
    else some (.error .invalidIpv6)
  | _ => none

/-- The host of a URL in general.  An opaque name may be empty. -/
def opaqueHost (host : List Char) : Except UrlError String :=
  match bracketed? host with
  | some address => address
  | none =>
    if host.any isForbiddenInHost then .error .invalidHostCharacter
    else .ok (String.ofList (Text.percentEncode isControl host))

/-- The host of a URL of the web: an address, or a domain name in the form in which it is shown. -/
def domainHost (host : List Char) : Except UrlError String :=
  match bracketed? host with
  | some address => address
  | none =>
    let text? := Text.decodeUtf8? (Text.percentDecode (Text.encodeUtf8 host))
    match text?.bind (Domain.read? ·.toList) with
    | none => .error .invalidDomain
    | some domain =>
      if domain.any isForbiddenInDomain then .error .invalidDomain
      else if domain = [] then .error .emptyHost
      else if Ipv4.endsInNumber domain && !Ipv4.isAddress domain then .error .invalidIpv4
      else .ok (String.ofList domain)

end SchemaMigration.Url
