/-! # Faults of addresses -/
set_option autoImplicit false
namespace HeatStack.Url

inductive Fault
  | noScheme
  | emptyHost
  | port
  | ipv4
  | ipv6
  /-- A host name of a web address that is not admitted. -/
  | domain
  /-- A character that no host may hold, under a scheme that does not know domains. -/
  | hostCharacter
  | unsupportedScheme (scheme : String)
deriving DecidableEq

def Fault.message : Fault → String
  | .noScheme => "relative URL without a base"
  | .emptyHost => "empty host"
  | .port => "invalid port number"
  | .ipv4 => "invalid IPv4 address"
  | .ipv6 => "invalid IPv6 address"
  | .domain => "invalid international domain name"
  | .hostCharacter => "invalid domain character"
  | .unsupportedScheme scheme => "unsupported scheme '" ++ scheme ++ "'"

end HeatStack.Url
