/-!
# Faults of URLs

Why a text cannot be read as a URL.

## Main definitions

* `Url.Fault`: the reasons
* `Url.Fault.message`: their texts
-/

namespace SchemaBinding.Url

/-- Why a text cannot be read as a URL. -/
inductive Fault where
  /-- No scheme and nothing to be relative to. -/
  | relativeWithoutBase
  /-- A reference relative to a URL whose path is opaque. -/
  | flatBase
  /-- A scheme that needs a host, without one. -/
  | emptyHost
  /-- A host name that is not allowed. -/
  | domain
  /-- A host with a character that hosts may not hold. -/
  | hostCharacter
  /-- An IPv4 address with a part that is too large or no number. -/
  | ipv4
  /-- Brackets without an IPv6 address. -/
  | ipv6
  /-- A port that is no number below 65536. -/
  | port
  deriving DecidableEq, Repr

/-- The text of a fault. -/
def Fault.message : Fault → String
  | .relativeWithoutBase => "relative URL without a base"
  | .flatBase => "relative URL with a cannot-be-a-base base"
  | .emptyHost => "empty host"
  | .domain => "invalid international domain name"
  | .hostCharacter => "invalid domain character"
  | .ipv4 => "invalid IPv4 address"
  | .ipv6 => "invalid IPv6 address"
  | .port => "invalid port number"

end SchemaBinding.Url
