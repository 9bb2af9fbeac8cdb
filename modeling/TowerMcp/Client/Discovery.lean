import TowerMcp.Client.Challenges

/-!
# Discovery of authorization servers

The two copies of the discovery: that of `client/oauth_authcode.rs` (`AuthCode`) and that of the
authorization flow (`Flow`). How URLs are parsed, how documents are read, and what is answered at
each URL are parameters. A discovery is told with the URLs it has requested.
-/

namespace TowerMcp

/-- What is read of a URL. The origin is in its ASCII form, and the port may be that of the scheme.
-/
structure Url where
  scheme : String
  host : Option String
  port : Option ℕ
  origin : String
  path : String
  query : Option String := none
  fragment : Option String := none

structure OAuthProtectedResourceMetadata where
  resource : String
  authorizationServers : List String := []
  scopesSupported : List String := []
deriving DecidableEq

structure OAuthAuthorizationServerMetadata where
  issuer : String
  authorizationEndpoint : String
  tokenEndpoint : String
  registrationEndpoint : Option String := none
  clientIdMetadataDocumentSupported : Bool := false
  authorizationResponseIssParameterSupported : Bool := false
  codeChallengeMethodsSupported : List String := []
  tokenEndpointAuthMethodsSupported : List String := []
  grantTypesSupported : List String := []
  scopesSupported : List String := []
deriving DecidableEq

structure OAuthAuthorizationDiscovery where
  resource : String
  protectedResourceMetadata : OAuthProtectedResourceMetadata
  authorizationServers : List OAuthAuthorizationServerMetadata
  challenge : Option OAuthBearerChallenge

structure FlowDiscovery where
  resource : String
  protectedResource : OAuthProtectedResourceMetadata
  authorizationServers : List OAuthAuthorizationServerMetadata
  challenge : Option OAuthBearerChallenge

def OAuthClientError.display : OAuthClientError → String
  | .http message => "OAuth HTTP error: " ++ message
  | .discovery message => "OAuth discovery error: " ++ message
  | .tokenRequest message => "OAuth token request error: " ++ message
  | .tokenRefreshRejected message => "OAuth refresh token rejected: " ++ message
  | .registration message => "OAuth client registration error: " ++ message
  | .credentialStore message => "OAuth credential store error: " ++ message
  | .tokenStore message => "OAuth token store error: " ++ message
  | .stateStore message => "OAuth state store error: " ++ message
  | .redirect message => "OAuth redirect error: " ++ message
  | .scopeEscalation message => "OAuth scope escalation error: " ++ message
  | .invalidResponse message => "OAuth invalid response: " ++ message
  | .buildError message => "OAuth builder error: " ++ message

namespace Discovery

structure Response where
  status : ℕ
  final : 200 ≤ status ∧ status < 600
  wwwAuthenticate : List String := []
  location : Option String := none
  body : String := ""

/-- What the discovery goes by: how URLs are parsed, what is answered at each of them, how documents
are read, and how a status is told. -/
structure Web where
  parseUrl : String → Except String Url
  answer : String → Except String Response
  readProtectedResource : String → Except String OAuthProtectedResourceMetadata
  readAuthorizationServer : String → Except String OAuthAuthorizationServerMetadata
  statusText : ℕ → String
  statusError : ℕ → String → String

/-- The URLs that are requested: to probe the resource, for its metadata, and for each issuer in
order for the metadata of the authorization server. -/
structure Requests where
  probe : List String := []
  protectedResource : List String := []
  authorizationServers : List (List String) := []
deriving DecidableEq

def trimSlashes (text : String) : String :=
  String.ofList (trimEndMatches text.toList '/')

def pushUnique (values : List String) (value : String) : List String :=
  if value ∈ values then values else values ++ [value]

def dedup : List String → List String
  | first :: second :: rest =>
    if first = second then dedup (second :: rest) else first :: dedup (second :: rest)
  | values => values

def discoveryReason : OAuthClientError → String
  | .discovery reason => reason
  | other => other.display

def redirectErrorDetail (web : Web) (context : String) (response : Response) : String :=
  match response.location with
  | some location =>
    context ++ " received a redirect (" ++ web.statusText response.status ++ ") to `" ++
      location ++ "`; redirects are not followed"
  | none =>
    context ++ " received a redirect (" ++ web.statusText response.status ++
      ") with no Location header"

def pathMatches (server resource : List Char) : Bool :=
  resource == ['/'] || server == resource ||
    (resource.getLast? == some '/' && resource.isPrefixOf server) ||
    ((stripPrefix server resource).any fun suffix => suffix.head? == some '/')

def validateResourceIdentifier (web : Web) (serverUrl resource : String) :
    Except OAuthClientError Unit :=
  match web.parseUrl serverUrl, web.parseUrl resource with
  | .error error, _ | .ok _, .error error => .error (.discovery error)
  | .ok server, .ok metadata =>
    if metadata.fragment = none ∧ server.scheme = metadata.scheme ∧ server.host = metadata.host ∧
        server.port = metadata.port ∧
        pathMatches server.path.toList metadata.path.toList = true ∧
        (metadata.query = none ∨ metadata.query = server.query) then
      .ok ()
    else
      .error (.discovery ("protected resource mismatch: expected `" ++ serverUrl ++ "`, got `" ++
        resource ++ "`"))

def challengeOf (response : Response) : Option OAuthBearerChallenge :=
  response.wwwAuthenticate.findSome? OAuthBearerChallenge.fromWwwAuthenticate

def matchingProtectedResource (web : Web) (serverUrl : String)
    (fetched : Except OAuthClientError OAuthProtectedResourceMetadata) :
    Except String OAuthProtectedResourceMetadata :=
  match fetched with
  | .error error => .error (discoveryReason error)
  | .ok metadata =>
    match validateResourceIdentifier web serverUrl metadata.resource with
    | .error error => .error (discoveryReason error)
    | .ok _ => .ok metadata

/-- Try candidates in order until one is accepted: the URLs that are requested, what is said of
those that are rejected, and the one that is accepted. -/
def firstAccepted (fetch : String → Except String OAuthProtectedResourceMetadata) :
    List String → List String × List String × Option (String × OAuthProtectedResourceMetadata)
  | [] => ([], [], none)
  | url :: rest =>
    match fetch url with
    | .ok metadata => ([url], [], some (url, metadata))
    | .error reason =>
      let following := firstAccepted fetch rest
      (url :: following.1, ("`" ++ url ++ "`: " ++ reason) :: following.2.1, following.2.2)

/-- The metadata of a resource, from its well-known URLs once that of the challenge, if there is
one, is rejected for a reason. -/
def fromWellKnown (fetch : String → Except String OAuthProtectedResourceMetadata)
    (wellKnown : Except OAuthClientError (List String)) (serverUrl : String)
    (rejected : List (String × String)) :
    List String × Except OAuthClientError (String × OAuthProtectedResourceMetadata) :=
  let requested := rejected.map (·.1)
  match wellKnown with
  | .error error => (requested, .error error)
  | .ok urls =>
    let tried := firstAccepted fetch urls
    match tried.2.2 with
    | some accepted => (requested ++ tried.1, .ok accepted)
    | none =>
      let attempts := (rejected.map fun attempt =>
        "`" ++ attempt.1 ++ "` (from challenge): " ++ attempt.2) ++ tried.2.1
      (requested ++ tried.1,
        .error (.discovery ("could not discover Protected Resource Metadata for `" ++
          serverUrl ++ "`; tried " ++ ", ".intercalate attempts)))

def discoverFrom (fetch : String → Except String OAuthProtectedResourceMetadata)
    (wellKnown : Except OAuthClientError (List String)) (serverUrl : String)
    (challenge : Option OAuthBearerChallenge) :
    List String × Except OAuthClientError (String × OAuthProtectedResourceMetadata) :=
  match challenge.bind fun challenge => challenge.resourceMetadata with
  | some url =>
    match fetch url with
    | .ok metadata => ([url], .ok (url, metadata))
    | .error reason => fromWellKnown fetch wellKnown serverUrl [(url, reason)]
  | none => fromWellKnown fetch wellKnown serverUrl []

/-- What the issuers of a resource have led to: for each the URLs that were requested, the servers
that were found, and the last error. -/
structure Issuers where
  requests : List (List String)
  servers : List OAuthAuthorizationServerMetadata
  lastError : Option OAuthClientError

def discoverIssuers
    (discover : String → List String × Except OAuthClientError OAuthAuthorizationServerMetadata)
    (issuers : List String) : Issuers where
  requests := issuers.map fun issuer => (discover issuer).1
  servers := issuers.filterMap fun issuer => (discover issuer).2.toOption
  lastError :=
    (issuers.filterMap fun issuer =>
      match (discover issuer).2 with
      | .error error => some error
      | .ok _ => none).getLast?

def noUsableServer (lastError : Option OAuthClientError) : OAuthClientError :=
  lastError.getD (.discovery "protected resource advertised no usable authorization server")

def noMetadata (issuer : String) (lastError : Option OAuthClientError) : OAuthClientError :=
  lastError.getD (.discovery
    ("could not discover authorization server metadata for `" ++ issuer ++ "`"))

end Discovery

/-! ## The authorization code grant -/

namespace AuthCode

open Discovery

variable (web : Web)

def fetchJson {α : Type} (read : String → Except String α) (url : String) :
    Except OAuthClientError α :=
  match web.answer url with
  | .error error => .error (.discovery error)
  | .ok response =>
    if 300 ≤ response.status ∧ response.status < 400 then
      .error (.discovery (redirectErrorDetail web "discovery request" response))
    else if 400 ≤ response.status ∧ response.status < 600 then
      .error (.discovery (web.statusError response.status url))
    else (read response.body).mapError .discovery

def protectedResourceMetadataUrls (serverUrl : String) : Except OAuthClientError (List String) :=
  match web.parseUrl serverUrl with
  | .error error => .error (.discovery error)
  | .ok parsed =>
    let path := trimSlashes parsed.path
    let urls :=
      if path ≠ "" then
        pushUnique [] (parsed.origin ++ "/.well-known/oauth-protected-resource" ++ path)
      else []
    .ok (pushUnique urls (parsed.origin ++ "/.well-known/oauth-protected-resource"))

def authorizationServerMetadataUrls (issuer : String) : Except OAuthClientError (List String) :=
  match web.parseUrl issuer with
  | .error error => .error (.discovery error)
  | .ok parsed =>
    let path := trimSlashes parsed.path
    let trimmed := trimSlashes issuer
    if path ≠ "" then
      .ok (pushUnique (pushUnique (pushUnique []
        (parsed.origin ++ "/.well-known/oauth-authorization-server" ++ path))
        (parsed.origin ++ "/.well-known/openid-configuration" ++ path))
        (trimmed ++ "/.well-known/openid-configuration"))
    else
      .ok (pushUnique (pushUnique []
        (parsed.origin ++ "/.well-known/oauth-authorization-server"))
        (parsed.origin ++ "/.well-known/openid-configuration"))

def fetchMatchingProtectedResource (serverUrl url : String) :
    Except String OAuthProtectedResourceMetadata :=
  matchingProtectedResource web serverUrl (fetchJson web web.readProtectedResource url)

def discoverProtectedResourceMetadata (serverUrl : String)
    (challenge : Option OAuthBearerChallenge) :
    List String × Except OAuthClientError (String × OAuthProtectedResourceMetadata) :=
  discoverFrom (fetchMatchingProtectedResource web serverUrl)
    (protectedResourceMetadataUrls web serverUrl) serverUrl challenge

def validateMetadataIssuer (metadata : OAuthAuthorizationServerMetadata) (expected : String) :
    Except OAuthClientError Unit :=
  if metadata.issuer = expected then .ok ()
  else
    .error (.discovery ("authorization server metadata issuer mismatch: expected `" ++ expected ++
      "`, got `" ++ metadata.issuer ++ "`"))

def tryCandidates (fetch : String → Except OAuthClientError OAuthAuthorizationServerMetadata)
    (issuer : String) (lastError : Option OAuthClientError) :
    List String → List String × Except OAuthClientError OAuthAuthorizationServerMetadata
  | [] => ([], .error (noMetadata issuer lastError))
  | url :: rest =>
    match fetch url with
    | .ok metadata => ([url], (validateMetadataIssuer metadata issuer).map fun _ => metadata)
    | .error error =>
      let following := tryCandidates fetch issuer (some error) rest
      (url :: following.1, following.2)

def discoverAuthorizationServerFromIssuer (issuer : String) :
    List String × Except OAuthClientError OAuthAuthorizationServerMetadata :=
  match authorizationServerMetadataUrls web issuer with
  | .error error => ([], .error error)
  | .ok urls => tryCandidates (fetchJson web web.readAuthorizationServer) issuer none urls

def probeOauthBearerChallenge (resourceUrl : String) :
    Except OAuthClientError (Option OAuthBearerChallenge) :=
  match web.answer resourceUrl with
  | .error error => .error (.discovery error)
  | .ok response => .ok (challengeOf response)

def discoverWith (probe : List String) (serverUrl : String)
    (challenge : Option OAuthBearerChallenge) :
    Requests × Except OAuthClientError OAuthAuthorizationDiscovery :=
  let found := discoverProtectedResourceMetadata web serverUrl challenge
  match found.2 with
  | .error error => ({ probe, protectedResource := found.1 }, .error error)
  | .ok (metadataUrl, metadata) =>
    if metadata.authorizationServers = [] then
      ({ probe, protectedResource := found.1 },
        .error (.discovery ("protected resource metadata at `" ++ metadataUrl ++
          "` omitted authorization_servers")))
    else
      let issuers := discoverIssuers (discoverAuthorizationServerFromIssuer web)
        metadata.authorizationServers
      let requests : Requests :=
        { probe, protectedResource := found.1, authorizationServers := issuers.requests }
      if issuers.servers = [] then (requests, .error (noUsableServer issuers.lastError))
      else
        (requests, .ok
          { resource := metadata.resource
            protectedResourceMetadata := metadata
            authorizationServers := issuers.servers
            challenge })

def discoverOauthAuthorization (serverUrl : String) (challenge : Option OAuthBearerChallenge) :
    Requests × Except OAuthClientError OAuthAuthorizationDiscovery :=
  match challenge with
  | some challenge => discoverWith web [] serverUrl (some challenge)
  | none =>
    match probeOauthBearerChallenge web serverUrl with
    | .error error => ({ probe := [serverUrl] }, .error error)
    | .ok challenge => discoverWith web [serverUrl] serverUrl challenge

end AuthCode

/-! ## The authorization flow -/

namespace Flow

open Discovery

variable (web : Web)

def fetchJson {α : Type} (read : String → Except String α) (url : String) :
    Except OAuthClientError α :=
  match web.answer url with
  | .error error => .error (.http error)
  | .ok response =>
    if 200 ≤ response.status ∧ response.status < 300 then
      (read response.body).mapError .invalidResponse
    else
      .error (.discovery ("GET `" ++ url ++ "` returned HTTP " ++ toString response.status ++
        ": " ++ String.ofList (response.body.toList.take 1024)))

def protectedResourceMetadataUrls (resourceUrl : String) : Except OAuthClientError (List String) :=
  match web.parseUrl resourceUrl with
  | .error error => .error (.discovery error)
  | .ok parsed =>
    let urls :=
      if parsed.path ≠ "" ∧ parsed.path ≠ "/" then
        [parsed.origin ++ "/.well-known/oauth-protected-resource" ++ parsed.path]
      else []
    .ok (dedup (urls ++ [parsed.origin ++ "/.well-known/oauth-protected-resource"]))

def authorizationServerMetadataUrls (issuer : String) : Except OAuthClientError (List String) :=
  match web.parseUrl issuer with
  | .error error => .error (.discovery error)
  | .ok parsed =>
    let trimmed := trimSlashes issuer
    if parsed.path ≠ "" ∧ parsed.path ≠ "/" then
      .ok (dedup
        [parsed.origin ++ "/.well-known/oauth-authorization-server" ++ parsed.path,
          parsed.origin ++ "/.well-known/openid-configuration" ++ parsed.path,
          trimmed ++ "/.well-known/openid-configuration"])
    else
      .ok (dedup
        [parsed.origin ++ "/.well-known/oauth-authorization-server",
          parsed.origin ++ "/.well-known/openid-configuration"])

def fetchMatchingProtectedResource (resourceUrl url : String) :
    Except String OAuthProtectedResourceMetadata :=
  matchingProtectedResource web resourceUrl (fetchJson web web.readProtectedResource url)

def discoverProtectedResourceMetadata (resourceUrl : String)
    (challenge : Option OAuthBearerChallenge) :
    List String × Except OAuthClientError (String × OAuthProtectedResourceMetadata) :=
  discoverFrom (fetchMatchingProtectedResource web resourceUrl)
    (protectedResourceMetadataUrls web resourceUrl) resourceUrl challenge

def tryCandidates (fetch : String → Except OAuthClientError OAuthAuthorizationServerMetadata)
    (issuer : String) (lastError : Option OAuthClientError) :
    List String → List String × Except OAuthClientError OAuthAuthorizationServerMetadata
  | [] => ([], .error (noMetadata issuer lastError))
  | url :: rest =>
    match fetch url with
    | .ok metadata =>
      if metadata.issuer = issuer then ([url], .ok metadata)
      else
        let following := tryCandidates fetch issuer (some (.discovery
          ("authorization server issuer mismatch: expected `" ++ issuer ++ "`, got `" ++
            metadata.issuer ++ "`"))) rest
        (url :: following.1, following.2)
    | .error error =>
      let following := tryCandidates fetch issuer (some error) rest
      (url :: following.1, following.2)

def discoverAuthorizationServer (issuer : String) :
    List String × Except OAuthClientError OAuthAuthorizationServerMetadata :=
  match authorizationServerMetadataUrls web issuer with
  | .error error => ([], .error error)
  | .ok urls => tryCandidates (fetchJson web web.readAuthorizationServer) issuer none urls

def discoverWith (probe : List String) (resourceUrl : String)
    (challenge : Option OAuthBearerChallenge) :
    Requests × Except OAuthClientError FlowDiscovery :=
  let found := discoverProtectedResourceMetadata web resourceUrl challenge
  match found.2 with
  | .error error => ({ probe, protectedResource := found.1 }, .error error)
  | .ok (_, metadata) =>
    if metadata.authorizationServers = [] then
      ({ probe, protectedResource := found.1 },
        .error (.discovery "protected resource metadata omitted authorization_servers"))
    else
      let issuers := discoverIssuers (discoverAuthorizationServer web)
        metadata.authorizationServers
      let requests : Requests :=
        { probe, protectedResource := found.1, authorizationServers := issuers.requests }
      if issuers.servers = [] then (requests, .error (noUsableServer issuers.lastError))
      else
        (requests, .ok
          { resource := metadata.resource
            protectedResource := metadata
            authorizationServers := issuers.servers
            challenge })

/-- Discover a resource. Its probe is a `tools/list` request. -/
def discoverWithHttp (resourceUrl : String) (challenge : Option OAuthBearerChallenge) :
    Requests × Except OAuthClientError FlowDiscovery :=
  match challenge with
  | some challenge => discoverWith web [] resourceUrl (some challenge)
  | none =>
    match web.answer resourceUrl with
    | .error error => ({ probe := [resourceUrl] }, .error (.http error))
    | .ok response => discoverWith web [resourceUrl] resourceUrl (challengeOf response)

end Flow

end TowerMcp
