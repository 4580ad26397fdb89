import Samaktha.Foundation.Dict
import Samaktha.Foundation.Text

/-!
# The network policy

`NetworkSecurityPolicy` and the check that it makes of a fetch before the tool runs
(`_validate_network`), with the rules for addresses.

How a URL is parsed and joined and what an address is, are functions of the platform: the
standard library's `urlparse`, `urljoin` and `ip_address`.
-/

namespace Samaktha

/-- What `urlparse` finds in a URL; the `port` can raise. -/
structure ParsedUrl where
  scheme : String
  netloc : String := ""
  username : Option String := none
  password : Option String := none
  hostname : Option String := none
  port : Except String (Option ℕ) := .ok none
  deriving Inhabited

structure AddressKind where
  loopback : Bool := false
  «private» : Bool := false
  linkLocal : Bool := false
  multicast : Bool := false
  unspecified : Bool := false
  reserved : Bool := false
  deriving Repr, DecidableEq, Inhabited

/-- An address of either version; one of version 6 can stand for one of version 4, which is given
with its text. -/
structure IpAddress where
  kind : AddressKind
  version6 : Bool := false
  mapped : Option (String × AddressKind) := none
  deriving Repr, DecidableEq, Inhabited

/-- The functions of the platform; each is `none` where it raises. -/
structure UrlPlatform where
  urlparse : String → Option ParsedUrl
  urljoin : String → String → Option String
  ipAddress : String → Option IpAddress

/-- A text that is there and not empty. -/
def textGiven : Option String → Bool
  | some text => text ≠ ""
  | none => false

namespace ParsedUrl

/-- `parsed.hostname or ""`. -/
def host (parsed : ParsedUrl) : String := parsed.hostname.getD ""

/-- `parsed.username or parsed.password`. -/
def credentials (parsed : ParsedUrl) : Bool :=
  textGiven parsed.username || textGiven parsed.password

end ParsedUrl

/-- Configured network execution scope. -/
structure NetworkSecurityPolicy where
  allowedSchemes : List String := ["http", "https"]
  allowedHosts : List String := []
  blockedHosts : List String := []
  allowPrivateAddresses : Bool := false
  allowLocalhost : Bool := false
  maxRedirects : ℕ := 5
  allowedPorts : List ℕ := [80, 443]
  sensitiveHeaderAllowlist : List String := []
  deriving Repr, DecidableEq, Inhabited

/-- The rules for an address that both checks share, given its text and the texts that name
metadata endpoints. -/
def kindAllowed (allowLocalhost allowPrivate : Bool) (metadata : List String) (text : String)
    (kind : AddressKind) : Bool :=
  !(kind.loopback && !allowLocalhost) && !(kind.private && !allowPrivate) && !kind.linkLocal &&
    !kind.multicast && !kind.unspecified && !kind.reserved && !metadata.contains text

namespace NetworkSecurityPolicy

/-- `_is_address_allowed` of the enforcer: no private address of version 6 at all. -/
def addressAllowed (policy : NetworkSecurityPolicy) (platform : UrlPlatform) (text : String) :
    Bool :=
  let allowed := kindAllowed policy.allowLocalhost policy.allowPrivateAddresses ["169.254.169.254"]
  match platform.ipAddress text with
  | none => false
  | some ip =>
      allowed text ip.kind &&
        (!ip.version6 || (ip.mapped.all (fun v4 => allowed v4.1 v4.2) && !ip.kind.private))

/-! ## The check -/

end NetworkSecurityPolicy

end Samaktha
