/-!
# Why a text is not a URL
-/

namespace EndpointMonitor

/-- Why a text is not a URL. -/
inductive UrlFault where
  | noScheme
  | emptyHost
  | invalidDomain
  | invalidHostCharacter
  | invalidIpv4
  | invalidIpv6
  | invalidPortNumber
  deriving DecidableEq, Inhabited

/-- The wording of a URL fault. -/
def UrlFault.message : UrlFault → String
  | .noScheme => "relative URL without a base"
  | .emptyHost => "empty host"
  | .invalidDomain => "invalid international domain name"
  | .invalidHostCharacter => "invalid domain character"
  | .invalidIpv4 => "invalid IPv4 address"
  | .invalidIpv6 => "invalid IPv6 address"
  | .invalidPortNumber => "invalid port number"

end EndpointMonitor
