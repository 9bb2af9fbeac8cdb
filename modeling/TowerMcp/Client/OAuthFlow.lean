import TowerMcp.Lib.Execution
import TowerMcp.Lib.Pool
import TowerMcp.Types.HeaderMappings

/-!
# The authorization flow of a client

The flow of `client/oauth_flow.rs` with its token store. The flow keeps the current token in memory,
where `invalidate` marks it as expired; the store keeps it as it was issued. The calls of the flow may
overlap: each is in one of the phases between its accesses to the current token, to the stores and to
the authorization server. The calls of `reauthorize` may overlap here as well, where a lock has them
wait for one another.
-/

namespace TowerMcp

/-! ## Tokens -/

structure OAuthTokenBinding where
  resource : String
  issuer : String
  clientId : String
deriving DecidableEq

structure OAuthStoredToken where
  accessToken : String
  refreshToken : Option String := none
  expiresAt : ℕ
  scopes : List String := []
deriving DecidableEq

structure ActiveToken where
  binding : OAuthTokenBinding
  token : OAuthStoredToken
deriving DecidableEq

inductive OAuthClientError where
  | http (message : String)
  | discovery (message : String)
  | tokenRequest (message : String)
  | tokenRefreshRejected (message : String)
  | registration (message : String)
  | credentialStore (message : String)
  | tokenStore (message : String)
  | stateStore (message : String)
  | redirect (message : String)
  | scopeEscalation (message : String)
  | invalidResponse (message : String)
  | buildError (message : String)
deriving DecidableEq

def unixTimeMax : ℕ := 2 ^ 64 - 1

def tokenIsValid (token : OAuthStoredToken) (buffer now : ℕ) : Bool :=
  decide (min (now + buffer) unixTimeMax < token.expiresAt)

def tokensDiffer (a b : OAuthStoredToken) : Bool :=
  a.accessToken != b.accessToken

def scopesAreCovered (requested granted : List String) : Bool :=
  requested.all fun scope => granted.contains scope

def splitAsciiWhitespace (text : String) : List String :=
  ((text.toList.splitOnP fun c => [' ', '\t', '\n', '\r', Char.ofNat 0xc].contains c).filter
    fun part => !part.isEmpty).map String.ofList

def uniqueScopes (scopes : List String) : List String :=
  (scopes.flatMap splitAsciiWhitespace).foldl
    (fun unique scope => if unique.contains scope then unique else unique ++ [scope]) []

structure TokenResponse where
  accessToken : String
  tokenType : String
  expiresIn : Option ℕ := none
  refreshToken : Option String := none
  scope : Option String := none

def tokenFromResponse (response : TokenResponse) (requestedScopes : List String)
    (previousRefreshToken : Option String) (now : ℕ) :
    Except OAuthClientError OAuthStoredToken :=
  if toAsciiLowercase response.tokenType ≠ "bearer" then
    .error (.invalidResponse
      ("token endpoint returned unsupported token type `" ++ response.tokenType ++ "`"))
  else
    .ok
      { accessToken := response.accessToken
        refreshToken := response.refreshToken.or previousRefreshToken
        expiresAt := (response.expiresIn.map fun lifetime =>
          min (now + lifetime) unixTimeMax).getD unixTimeMax
        scopes := (response.scope.map fun scope =>
          uniqueScopes (splitAsciiWhitespace scope)).getD requestedScopes }

/-! ## Callbacks -/

structure OAuthPendingAuthorizationState where
  state : String
  redirectUri : String
  resource : String
  issuer : String
  clientId : String
  scopes : List String
  issRequired : Bool
deriving DecidableEq

def OAuthPendingAuthorizationState.binding (self : OAuthPendingAuthorizationState) :
    OAuthTokenBinding where
  resource := self.resource
  issuer := self.issuer
  clientId := self.clientId

structure ParsedCallback where
  code : String
  state : String
  issuer : Option String

def validateCallbackIssuer (actual : Option String) (expected : String) (required : Bool) :
    Except OAuthClientError Unit :=
  match actual with
  | some actual =>
    if actual = expected then .ok ()
    else
      .error (.invalidResponse ("authorization response issuer mismatch: expected `" ++ expected ++
        "`, got `" ++ actual ++ "`"))
  | none =>
    if required then .error (.invalidResponse "authorization response omitted required `iss`")
    else .ok ()

structure OAuthAuthorizationFlow where
  resourceUrl : String
  refreshBuffer : ℕ := 30
  parseCallbackUrl : String → Except OAuthClientError ParsedCallback
  validateCallbackTarget : String → String → Except OAuthClientError Unit

namespace OAuthAuthorizationFlow

/-! ## Calls -/

/-- An attempt to authorize, by `begin` or `reauthorize`, once the server is discovered, the client
registered and the scopes are selected. -/
structure Attempt where
  reauthorizes : Bool
  request : OAuthPendingAuthorizationState

/-- What a token is wanted for: by the caller of `get_token`, for an attempt, or to complete one. -/
inductive TokenUse where
  | caller
  | attempt (attempt : Attempt)
  | callback

/-- Where a call is. A call of `get_token` is `asked` before it looks at the current token, and
`waiting` for the lock of refreshes; with the lock it is `reloading` the store, `adopting` what it has
found there, or `refreshing`; it is `restoring` when the refresh was rejected, and then `clearing` the
current token and `discarding` the stored one. A call that has saved a token is `writing` it. An
attempt is `discovering`, `selecting` a stored token, `resuming` with that, or `pending`; then its
handler is `authorizing`. A callback is `calledBack`, `exchanging` its code, and `removing` the state
that it has completed. -/
inductive Phase where
  | asked (use : TokenUse)
  | waiting (use : TokenUse)
  | reloading (active : ActiveToken) (use : TokenUse)
  | adopting (active : ActiveToken) (use : TokenUse)
  | refreshing (active : ActiveToken) (use : TokenUse)
  | restoring (active : ActiveToken) (use : TokenUse) (message : String)
  | clearing (active : ActiveToken) (use : TokenUse) (message : String) (discards : Bool)
  | discarding (binding : OAuthTokenBinding) (use : TokenUse) (message : String)
  | writing (active : ActiveToken) (use : TokenUse)
  | discovering (reauthorizes : Bool)
  | selecting (attempt : Attempt)
  | resuming (active : ActiveToken) (attempt : Attempt)
  | pending (attempt : Attempt)
  | authorizing (state : String)
  | calledBack (url : String) (expected : Option String)
  | exchanging (request : OAuthPendingAuthorizationState)
  | removing (active : ActiveToken) (state : String)

def Phase.isRefreshing : Phase → Bool
  | .reloading _ _ | .adopting _ _ | .refreshing _ _ | .restoring _ _ _ | .clearing _ _ _ _
  | .discarding _ _ _ | .writing _ .caller | .writing _ (.attempt _) => true
  | _ => false

/-- What a call goes on with: nothing but its turn, a load or a write of a store, what it has
discovered, the response of the token endpoint and how the token is saved, or what the handler says. -/
inductive Input where
  | proceed
  | loaded (failure : Option OAuthClientError)
  | wrote (outcome : Fallible.Outcome OAuthClientError)
  | discovered (result : Except OAuthClientError OAuthPendingAuthorizationState)
  | responded (result : Except OAuthClientError TokenResponse)
      (save : Fallible.Outcome OAuthClientError)
  | handled (result : Except OAuthClientError String)

/-- What can be seen of the calls: a token is invalidated, returned, taken up from the store by an
attempt, or reported as authorized. -/
inductive Report where
  | invalidated (accessToken : String)
  | returned (accessToken : String)
  | restored (token : OAuthStoredToken)
  | authorized (accessToken : String)
  | pending (state : String)
  | completed
  | failed (error : OAuthClientError)
deriving DecidableEq

/-- The state of the flow and of its stores. The clock is its last reading, and the access tokens
that were issued and the reports, the latest first, are history. -/
structure FlowState where
  clock : ℕ := 0
  current : Option ActiveToken := none
  tokens : FinMap OAuthTokenBinding OAuthStoredToken := ∅
  states : FinMap String OAuthPendingAuthorizationState := ∅
  calls : Pool Phase := {}
  issued : List String := []
  log : List Report := []

namespace FlowState

variable (self : FlowState)

def move (ticket : ℕ) (phase : Phase) : FlowState :=
  { self with calls := self.calls.become ticket phase }

def settle (ticket : ℕ) (report : Report) : FlowState :=
  { self with calls := self.calls.finish ticket, log := report :: self.log }

def handOut (ticket : ℕ) (use : TokenUse) (accessToken : String) : FlowState :=
  match use with
  | .caller => self.settle ticket (.returned accessToken)
  | .attempt _ => self.settle ticket (.authorized accessToken)
  | .callback => self.settle ticket .completed

def fail (ticket : ℕ) (use : TokenUse) (error : OAuthClientError) : FlowState :=
  match use, error with
  | .attempt attempt, .tokenRefreshRejected _ => self.move ticket (.pending attempt)
  | _, _ => self.settle ticket (.failed error)

def issue (ticket : ℕ) (use : TokenUse) (active : ActiveToken)
    (save : Fallible.Outcome OAuthClientError) (phase : Phase) : Option FlowState :=
  if active.token.accessToken ∈ self.issued then none
  else
    let saved :=
      { self with
        issued := active.token.accessToken :: self.issued
        tokens := save.write (fun tokens => tokens.insert active.binding active.token)
          self.tokens }
    match save.result with
    | .error error => some (saved.fail ticket use error)
    | .ok _ => some (saved.move ticket phase)

def start (phase : Phase) : FlowState :=
  { self with calls := self.calls.start phase }

end FlowState

section Steps

variable (flow : OAuthAuthorizationFlow) (self : FlowState) (now ticket : ℕ)

def isValid (token : OAuthStoredToken) : Bool :=
  tokenIsValid token flow.refreshBuffer now

def validToken : Option ActiveToken :=
  self.current.filter fun active => flow.isValid now active.token

def adoptable (active : ActiveToken) : Option OAuthStoredToken :=
  (self.tokens.lookup active.binding).filter fun stored =>
    tokensDiffer stored active.token && flow.isValid now stored

def restorable (request : OAuthPendingAuthorizationState) : Option OAuthStoredToken :=
  (self.tokens.lookup request.binding).filter fun token =>
    scopesAreCovered request.scopes token.scopes &&
      (flow.isValid now token || token.refreshToken.isSome)

/-- A call of `get_token` that has loaded the stored token. -/
def reload (active : ActiveToken) (use : TokenUse) : FlowState :=
  match flow.adoptable self now active with
  | some stored => self.move ticket (.adopting { active with token := stored } use)
  | none =>
    match active.token.refreshToken with
    | some _ => self.move ticket (.refreshing active use)
    | none =>
      self.fail ticket use (.tokenRequest
        ("OAuth access token expired and no refresh token is available; call authorize() " ++
          "or begin() again to reauthorize"))

def restore (active : ActiveToken) (use : TokenUse) (message : String) : FlowState :=
  match flow.adoptable self now active with
  | some stored => self.move ticket (.adopting { active with token := stored } use)
  | none =>
    let discards := (self.tokens.lookup active.binding).all fun stored =>
      !tokensDiffer stored active.token
    self.move ticket (.clearing active use message discards)

def select (attempt : Attempt) : FlowState :=
  match flow.restorable self now attempt.request with
  | some token =>
    { self.move ticket (.resuming ⟨attempt.request.binding, token⟩ attempt) with
      log := .restored token :: self.log }
  | none => self.move ticket (.pending attempt)

def exchange (url : String) (expected : Option String) (failure : Option OAuthClientError) :
    FlowState :=
  match flow.parseCallbackUrl url with
  | .error error => self.settle ticket (.failed error)
  | .ok parsed =>
    if expected.any fun expected => parsed.state != expected then
      self.settle ticket (.failed (.invalidResponse "OAuth callback state mismatch"))
    else
      match failure, self.states.lookup parsed.state with
      | some error, _ => self.settle ticket (.failed error)
      | none, none =>
        self.settle ticket (.failed (.stateStore
          "no persisted OAuth authorization matches the callback state"))
      | none, some request =>
        match flow.validateCallbackTarget url request.redirectUri,
            validateCallbackIssuer parsed.issuer request.issuer request.issRequired with
        | .error error, _ | .ok _, .error error => self.settle ticket (.failed error)
        | .ok _, .ok _ => self.move ticket (.exchanging request)

def advance : Phase → Input → Option FlowState
  | .asked use, .proceed =>
    match flow.validToken self now with
    | some active => some (self.handOut ticket use active.token.accessToken)
    | none => some (self.move ticket (.waiting use))
  | .waiting use, .proceed =>
    if self.calls.any Phase.isRefreshing then none
    else
      match flow.validToken self now, self.current with
      | some active, _ => some (self.handOut ticket use active.token.accessToken)
      | none, some active => some (self.move ticket (.reloading active use))
      | none, none =>
        some (self.fail ticket use (.tokenRequest
          "OAuthAuthorizationFlow is not authorized; call authorize() or begin()"))
  | .reloading _ use, .loaded (some error) => some (self.fail ticket use error)
  | .reloading active use, .loaded none => some (flow.reload self now ticket active use)
  | .adopting active use, .proceed | .writing active use, .proceed =>
    some ({ self with current := some active }.handOut ticket use active.token.accessToken)
  | .refreshing active use, .responded (.error (.tokenRefreshRejected message)) _ =>
    some (self.move ticket (.restoring active use message))
  | .refreshing _ use, .responded (.error error) _ => some (self.fail ticket use error)
  | .refreshing active use, .responded (.ok response) save =>
    match tokenFromResponse response active.token.scopes active.token.refreshToken now with
    | .error error => some (self.fail ticket use error)
    | .ok token =>
      let refreshed := { active with token }
      self.issue ticket use refreshed save (.writing refreshed use)
  | .restoring _ use _, .loaded (some error) => some (self.fail ticket use error)
  | .restoring active use message, .loaded none =>
    some (flow.restore self now ticket active use message)
  | .clearing active use message discards, .proceed =>
    let cleared := { self with current := none }
    if discards then some (cleared.move ticket (.discarding active.binding use message))
    else some (cleared.fail ticket use (.tokenRefreshRejected message))
  | .discarding binding use message, .wrote outcome =>
    let discarded := { self with
      tokens := outcome.write (fun tokens => tokens.erase binding) self.tokens }
    match outcome.result with
    | .error error => some (discarded.fail ticket use error)
    | .ok _ => some (discarded.fail ticket use (.tokenRefreshRejected message))
  | .discovering _, .discovered (.error error) => some (self.settle ticket (.failed error))
  | .discovering reauthorizes, .discovered (.ok request) =>
    some (self.move ticket (.selecting ⟨reauthorizes, request⟩))
  | .selecting _, .loaded (some error) => some (self.settle ticket (.failed error))
  | .selecting attempt, .loaded none => some (flow.select self now ticket attempt)
  | .resuming active attempt, .proceed =>
    let resumed := { self with current := some active }
    if flow.isValid now active.token then
      some (resumed.settle ticket (.authorized active.token.accessToken))
    else some (resumed.move ticket (.asked (.attempt attempt)))
  | .pending attempt, .wrote outcome =>
    let saved := { self with
      states := outcome.write (fun states =>
        states.insert attempt.request.state attempt.request) self.states }
    match outcome.result with
    | .error error => some (saved.settle ticket (.failed error))
    | .ok _ =>
      if attempt.reauthorizes then
        some (saved.move ticket (.authorizing attempt.request.state))
      else some (saved.settle ticket (.pending attempt.request.state))
  | .authorizing _, .handled (.error error) => some (self.settle ticket (.failed error))
  | .authorizing state, .handled (.ok url) =>
    some (self.move ticket (.calledBack url (some state)))
  | .calledBack url expected, .loaded failure =>
    some (flow.exchange self ticket url expected failure)
  | .exchanging _, .responded (.error error) _ => some (self.settle ticket (.failed error))
  | .exchanging request, .responded (.ok response) save =>
    match tokenFromResponse response request.scopes none now with
    | .error error => some (self.settle ticket (.failed error))
    | .ok token =>
      let granted : ActiveToken := ⟨request.binding, token⟩
      self.issue ticket .callback granted save (.removing granted request.state)
  | .removing active state, .wrote outcome =>
    let removed := { self with
      states := outcome.write (fun states => states.erase state) self.states }
    match outcome.result with
    | .error error => some (removed.settle ticket (.failed error))
    | .ok _ => some (removed.move ticket (.writing active .callback))
  | _, _ => none

end Steps

inductive Action where
  | getToken
  | invalidate
  | begin
  | completeCallbackUrl (url : String) (expected : Option String)
  | reauthorize (resource : String)
  | advance (ticket : ℕ) (input : Input)

structure Event where
  now : ℕ
  action : Action

def FlowState.invalidate (self : FlowState) : FlowState :=
  match self.current with
  | none => self
  | some active =>
    { self with
      current := some { active with token := { active.token with expiresAt := 0 } }
      log := .invalidated active.token.accessToken :: self.log }

def step (flow : OAuthAuthorizationFlow) (self : FlowState) (event : Event) : Option FlowState :=
  let now := { self with clock := event.now }
  match event.action with
  | .getToken => some (now.start (.asked .caller))
  | .invalidate => some now.invalidate
  | .begin => some (now.start (.discovering false))
  | .completeCallbackUrl url expected => some (now.start (.calledBack url expected))
  | .reauthorize resource =>
    if resource ≠ flow.resourceUrl then
      some { now with
        log := .failed (.scopeEscalation ("scope challenge resource `" ++ resource ++
          "` does not match flow resource `" ++ flow.resourceUrl ++ "`")) :: now.log }
    else some (now.start (.discovering true))
  | .advance ticket input =>
    match self.calls.get ticket with
    | some phase => flow.advance now event.now ticket phase input
    | none => none

end OAuthAuthorizationFlow

end TowerMcp
