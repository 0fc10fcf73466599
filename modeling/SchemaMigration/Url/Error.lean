/-!
# Malformed URLs
-/

namespace SchemaMigration

/-- Why a text is no absolute URL. -/
inductive UrlError
  /-- It does not start with a scheme. -/
  | noScheme
  | emptyHost
  | invalidHostCharacter
  | invalidDomain
  | invalidIpv4
  | invalidIpv6
  | invalidPort
deriving DecidableEq, Repr, Inhabited

/-- The text shown to the user. -/
def UrlError.message : UrlError → String
  | noScheme => "relative URL without a base"
  | emptyHost => "empty host"
  | invalidHostCharacter => "invalid domain character"
  | invalidDomain => "invalid international domain name"
  | invalidIpv4 => "invalid IPv4 address"
  | invalidIpv6 => "invalid IPv6 address"
  | invalidPort => "invalid port number"

end SchemaMigration
