import SsmBridge.Construction.Errors

/-!
# Stream URLs

What the crate does with the URL of a data channel: `EndpointPolicy::validate` and `sanitize_url` of
`src/connection.rs` and `is_presigned` of `src/signing.rs`.

Parsing and writing URLs is the `url` crate's.  A `Url` is what the code reads of a parsed one: the
scheme, the host, the query as decoded pairs, and the rest as it is; `UrlCrate` has the two
functions between texts and URLs.  Strings are compared by their characters.
-/

namespace SsmBridge

/-! ## URLs -/

/-- A parsed URL. -/
structure Url where
  scheme : String
  hostStr : Option String
  /-- Everything but the query. -/
  rest : String
  /-- The pairs of the query, decoded. -/
  query : Option (List (String × String))
  deriving DecidableEq

/-- The `url` crate. -/
structure UrlCrate where
  /-- `Url::parse`; a failure has a text. -/
  parse : String → Except String Url
  /-- `String::from`. -/
  write : Url → String

/-- `query_pairs()`. -/
def Url.queryPairs (url : Url) : List (String × String) := url.query.getD []

/-- `query_pairs_mut().extend_pairs(pairs)`. -/
def Url.extendPairs (url : Url) (pairs : List (String × String)) : Url :=
  { url with query := some (url.queryPairs ++ pairs) }

/-! ## Texts -/

/-- `str::ends_with`. -/
def endsWith (s suffix : String) : Bool := suffix.toList.isSuffixOf s.toList

/-- `str::starts_with`. -/
def startsWith (s start : String) : Bool := start.toList.isPrefixOf s.toList

/-- `eq_ignore_ascii_case`. -/
def eqIgnoreAsciiCase (s t : String) : Bool :=
  s.toList.map Char.toLower == t.toList.map Char.toLower

/-- `host.split('.')`. -/
def hostLabels (host : String) : List String := (host.toList.splitOn '.').map String.ofList

/-! ## Endpoint policy -/

/-- Which WebSocket endpoints the client is willing to connect to. -/
inductive EndpointPolicy
  | awsOnly
  | allowAny
  deriving DecidableEq

/-- The label is the service name, or begins with it and a hyphen. -/
def isServiceLabel (label : String) : Bool :=
  label == "ssmmessages" || startsWith label "ssmmessages-"

/-- `EndpointPolicy::validate`. -/
def EndpointPolicy.validate (crate : UrlCrate) (policy : EndpointPolicy) (raw : String) :
    Except Error Unit :=
  match crate.parse raw with
  | .error e => .error (.config s!"stream URL is not a valid URL: {e}")
  | .ok url =>
      if policy = .allowAny then
        if url.scheme = "ws" ∨ url.scheme = "wss" then .ok ()
        else .error (.config s!"stream URL scheme must be ws or wss, got {url.scheme}")
      else if url.scheme ≠ "wss" then
        .error (.config s!"stream URL must use wss://, got {url.scheme}://")
      else
        match url.hostStr with
        | none => .error (.config "stream URL has no host")
        | some host =>
            let inAws := endsWith host ".amazonaws.com" || endsWith host ".amazonaws.com.cn"
            let isSsm := (hostLabels host).any isServiceLabel
            if inAws && isSsm then .ok ()
            else
              .error (.config (s!"refusing to connect to {host}: " ++
                "not an AWS SSM messages endpoint. " ++
                "Set SessionConfig::endpoint_policy to EndpointPolicy::AllowAny to override."))

/-! ## Credentials in a URL -/

/-- Query parameters whose presence means the URL is already presigned. -/
def presignedParams : List String :=
  ["X-Amz-Algorithm", "X-Amz-Credential", "X-Amz-Date", "X-Amz-Expires", "X-Amz-SignedHeaders",
    "X-Amz-Signature", "X-Amz-Security-Token"]

/-- The parameter is one of a presigned signature. -/
def isPresignedParam (key : String) : Bool := presignedParams.any (eqIgnoreAsciiCase key)

/-- Whether a URL already carries a presigned signature. -/
def isPresigned (crate : UrlCrate) (raw : String) : Bool :=
  match crate.parse raw with
  | .error _ => false
  | .ok url => url.queryPairs.any (fun pair => isPresignedParam pair.1)

/-- The URL without the session token. -/
def stripToken (url : Url) : Url :=
  let kept := url.queryPairs.filter (fun pair => !eqIgnoreAsciiCase pair.1 "tokenValue")
  let url := { url with query := none }
  if kept.isEmpty then url else url.extendPairs kept

/-- Strip credentials from a URL before it reaches a log line. -/
def sanitizeUrl (crate : UrlCrate) (raw : String) : String :=
  match crate.parse raw with
  | .ok url => crate.write (stripToken url)
  | .error _ => "<unparseable URL>"

end SsmBridge
