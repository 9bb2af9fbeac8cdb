import TowerMcp.OAuth.Scopes

/-!
# Keys from a JWKS endpoint

The validator of `oauth/token.rs` that fetches its keys. The keys are cached by `kid` until the cache
expires. A token whose `kid` the cache does not answer has them fetched again, unless they were
fetched a moment ago. A cache that holds one key answers every `kid` with it. The library that parses
keys and verifies tokens is a parameter.
-/

namespace TowerMcp

/-! ## Keys as they are published -/

inductive KeyAlgorithm where
  | hs256 | hs384 | hs512
  | es256 | es384
  | rs256 | rs384 | rs512
  | ps256 | ps384 | ps512
  | edDSA
  | rsa1_5 | rsaOaep | rsaOaep256
  | unknownAlgorithm
deriving DecidableEq

inductive Algorithm where
  | hs256 | hs384 | hs512
  | es256 | es384
  | rs256 | rs384 | rs512
  | ps256 | ps384 | ps512
  | edDSA
deriving DecidableEq

inductive EllipticCurve where
  | p256
  | p384
  | p521
  | ed25519
deriving DecidableEq

inductive AlgorithmParameters where
  | ellipticCurve (curve : EllipticCurve)
  | rsa
  | octetKey
  | octetKeyPair
deriving DecidableEq

structure Jwk where
  keyId : Option String := none
  keyAlgorithm : Option KeyAlgorithm := none
  algorithm : AlgorithmParameters
  material : String
deriving DecidableEq

def keyAlgorithmToAlgorithm : KeyAlgorithm → Option Algorithm
  | .rs256 => some .rs256
  | .rs384 => some .rs384
  | .rs512 => some .rs512
  | .es256 => some .es256
  | .es384 => some .es384
  | .ps256 => some .ps256
  | .ps384 => some .ps384
  | .ps512 => some .ps512
  | .edDSA => some .edDSA
  | _ => none

def inferAlgorithmFromKeyType (jwk : Jwk) : Option Algorithm :=
  match jwk.algorithm with
  | .rsa => some .rs256
  | .ellipticCurve .p256 => some .es256
  | .ellipticCurve .p384 => some .es384
  | .ellipticCurve _ => none
  | .octetKeyPair => some .edDSA
  | .octetKey => none

/-! ## The library -/

structure Validation where
  algorithms : List Algorithm
  validateAud : Bool := false
  validateExp : Bool := true
  aud : Option (List String) := none
  iss : Option (List String) := none
deriving DecidableEq

structure JwtHeader where
  kid : Option String := none
  alg : Algorithm
deriving DecidableEq

inductive JwtError where
  | expiredSignature
  | invalidAudience
  | other (reason : String)
deriving DecidableEq

/-- The library: it reads the header of a token, makes decoding keys, and verifies a token with one at
a time. -/
structure JsonWebToken (K : Type) where
  decodeHeader : String → Except String JwtHeader
  fromJwk : Jwk → Except String K
  decode : String → K → Validation → Instant → Except JwtError TokenClaims

/-! ## The cache -/

inductive JwksError where
  | fetch (reason : String)
  | parse (message : String)
  | keyNotFound (kid : Option String)
  | undetermined (keyId : Option String)
  | invalidKey (reason : String)
deriving DecidableEq

structure CachedKey (K : Type) where
  decodingKey : K
  algorithm : Algorithm
deriving DecidableEq

/-- The cache: the keys by `kid`, when they were fetched, and for how long they are fresh. -/
structure JwksCache (K : Type) where
  keys : FinMap (Option String) (CachedKey K) := ∅
  fetchedAt : Instant := 0
  ttl : ℕ := 0

def JwksCache.isExpired {K : Type} (self : JwksCache K) (now : Instant) : Bool :=
  decide (self.ttl < now - self.fetchedAt)

/-- Look a key up by `kid`. A single key stands for every `kid`. -/
def lookupKey {K : Type} (keys : FinMap (Option String) (CachedKey K)) (kid : Option String) :
    Option (CachedKey K) :=
  match keys.lookup kid with
  | some key => some key
  | none =>
    match keys.values with
    | [key] => some key
    | _ => none

def stripPrefixIgnoreAsciiCase (text start : List Char) : Option (List Char) :=
  if (text.take start.length).map Char.toLower = start then some (text.drop start.length) else none

/-- The `max-age` of a `Cache-Control` header, as a duration. -/
def parseCacheControlMaxAge (header : Option String) : Option ℕ := do
  let header ← header
  (header.toList.splitOn ',').findSome? fun directive => do
    let value ← stripPrefixIgnoreAsciiCase (trim directive) "max-age=".toList
    let seconds ← parseU64 (trim value)
    pure (seconds * 1000000000)

section Library

variable {K : Type} (lib : JsonWebToken K)

def cachedKey (jwk : Jwk) : Except JwksError (CachedKey K) :=
  match (jwk.keyAlgorithm.bind keyAlgorithmToAlgorithm).or (inferAlgorithmFromKeyType jwk) with
  | none => .error (.undetermined jwk.keyId)
  | some algorithm =>
    match lib.fromJwk jwk with
    | .error reason => .error (.invalidKey reason)
    | .ok decodingKey => .ok ⟨decodingKey, algorithm⟩

def insertJwk (keys : FinMap (Option String) (CachedKey K)) (jwk : Jwk) :
    Except JwksError (FinMap (Option String) (CachedKey K)) := do
  let key ← cachedKey lib jwk
  pure (keys.insert jwk.keyId key)

/-- Convert a set to a map from `kid`. -/
def parseJwkSet (jwks : List Jwk) :
    Except JwksError (FinMap (Option String) (CachedKey K)) :=
  jwks.foldlM (insertJwk lib) ∅

/-- How the endpoint responds to a fetch: not at all, with what is no set, or with the set that it
publishes. -/
inductive FetchResponse where
  | failed (reason : String)
  | garbled (cacheControl : Option String)
  | served (cacheControl : Option String)

def fetchAndParseJwks (defaultTtl : ℕ) (published : List Jwk) :
    FetchResponse → Except JwksError (FinMap (Option String) (CachedKey K) × ℕ)
  | .failed reason => .error (.fetch reason)
  | .garbled _ => .error (.parse "invalid JWKS response")
  | .served cacheControl => do
    let keys ← parseJwkSet lib published
    pure (keys, (parseCacheControlMaxAge cacheControl).getD defaultTtl)

end Library

def FetchResponse.returned (published : List Jwk) : FetchResponse → Option (List Jwk)
  | .failed _ | .garbled _ => none
  | .served _ => some published

/-! ## The validator -/

structure Fetch where
  response : FetchResponse
  duration : ℕ := 0

inductive TokenError where
  | header (reason : String)
  | key (error : JwksError)
  | expiredToken
  | invalidAudience
  | invalidToken (reason : String)
deriving DecidableEq

structure JwksValidator (K : Type) where
  lib : JsonWebToken K
  validationTemplate : Validation
  defaultTtl : ℕ := 300 * 1000000000
  minRefreshInterval : ℕ := 10 * 1000000000

namespace JwksValidator

variable {K : Type} (self : JwksValidator K)

def build (published : List Jwk) (response : FetchResponse) (now : Instant) :
    Except JwksError (JwksCache K) := do
  let (keys, ttl) ← fetchAndParseJwks self.lib self.defaultTtl published response
  pure { keys, fetchedAt := now, ttl }

def isThrottled (cache : JwksCache K) (now : Instant) : Bool :=
  decide (now - cache.fetchedAt < self.minRefreshInterval)

def refreshCache (cache : JwksCache K) (published : List Jwk) (now : Instant) (fetch : Fetch) :
    Except JwksError Unit × JwksCache K :=
  if self.isThrottled cache now then (.ok (), cache)
  else
    match fetchAndParseJwks self.lib self.defaultTtl published fetch.response with
    | .ok (keys, ttl) => (.ok (), { keys, fetchedAt := now + fetch.duration, ttl })
    | .error error =>
      if cache.keys.entries.isEmpty then (.error error, cache)
      else (.ok (), { cache with fetchedAt := now + fetch.duration })

/-- The key that the cache has for a `kid` while it is fresh. -/
def freshKey (cache : JwksCache K) (kid : Option String) (now : Instant) : Option (CachedKey K) :=
  if cache.isExpired now then none else lookupKey cache.keys kid

/-- Get the key for a `kid`, refreshing the cache if necessary. -/
def getKey (cache : JwksCache K) (published : List Jwk) (kid : Option String) (now : Instant)
    (fetch : Fetch) : Except JwksError (CachedKey K) × JwksCache K :=
  match freshKey cache kid now with
  | some key => (.ok key, cache)
  | none =>
    match self.refreshCache cache published now fetch with
    | (.error error, cache) => (.error error, cache)
    | (.ok _, cache) =>
      match lookupKey cache.keys kid with
      | some key => (.ok key, cache)
      | none => (.error (.keyNotFound kid), cache)

/-- Whether a `kid` has the keys fetched. -/
def fetches (cache : JwksCache K) (kid : Option String) (now : Instant) : Bool :=
  (freshKey cache kid now).isNone && !self.isThrottled cache now

def verify (token : String) (key : CachedKey K) (now : Instant) : Except TokenError TokenClaims :=
  match self.lib.decode token key.decodingKey
      { self.validationTemplate with algorithms := [key.algorithm] } now with
  | .ok claims => .ok claims
  | .error .expiredSignature => .error .expiredToken
  | .error .invalidAudience => .error .invalidAudience
  | .error (.other reason) => .error (.invalidToken reason)

def ends (cache : JwksCache K) (kid : Option String) (now : Instant) (fetch : Fetch) : Instant :=
  if self.fetches cache kid now then now + fetch.duration else now

def validateWith (cache : JwksCache K) (published : List Jwk) (token : String)
    (kid : Option String) (now : Instant) (fetch : Fetch) :
    Except TokenError TokenClaims × JwksCache K :=
  match self.getKey cache published kid now fetch with
  | (.error error, cache) => (.error (.key error), cache)
  | (.ok key, after) => (self.verify token key (self.ends cache kid now fetch), after)

end JwksValidator

/-! ## Runs -/

structure Attempt where
  time : Instant
  returned : Option (List Jwk)

/-- The outcome of a validation: when it ended, the header of the token, and what the endpoint
published then. -/
structure Verdict where
  time : Instant
  token : String
  header : JwtHeader
  published : List Jwk
  outcome : Except TokenError TokenClaims

structure JwksServer (K : Type) where
  clock : Instant
  published : List Jwk
  cache : JwksCache K
  attempts : List Attempt
  verdicts : List Verdict := []

namespace JwksServer

variable {K : Type} (validator : JwksValidator K)

inductive Event where
  | publish (jwks : List Jwk)
  | validate (token : String) (now : Instant) (fetch : Fetch)

def start (published : List Jwk) (response : FetchResponse) (now : Instant) :
    Option (JwksServer K) :=
  match validator.build published response now with
  | .error _ => none
  | .ok cache =>
    some
      { clock := now
        published
        cache
        attempts := [⟨now, response.returned published⟩] }

def step (self : JwksServer K) : Event → Option (JwksServer K)
  | .publish jwks => some { self with published := jwks }
  | .validate token now fetch =>
    if now < self.clock then none
    else
      match validator.lib.decodeHeader token with
      | .error _ => some { self with clock := now }
      | .ok header =>
        let validated :=
          validator.validateWith self.cache self.published token header.kid now fetch
        let time := validator.ends self.cache header.kid now fetch
        some
          { self with
            clock := time
            cache := validated.2
            attempts :=
              if validator.fetches self.cache header.kid now then
                ⟨time, fetch.response.returned self.published⟩ :: self.attempts
              else self.attempts
            verdicts := ⟨time, token, header, self.published, validated.1⟩ :: self.verdicts }

end JwksServer

end TowerMcp
