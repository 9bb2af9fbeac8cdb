import TowerMcp.Client.OAuthFlow
import TowerMcp.Task.Retention

/-!
# Lifetimes of tokens

The three token providers turn a lifetime into an expiry, two of them with an `Instant`, whose
addition panics past the end of its range.
-/

namespace TowerMcp.TokenLifetimes

open Fallible

structure Moment where
  instant : ℤ
  unix : ℕ

/-- The range of an `Instant`. -/
structure Clock where
  earliest : ℤ
  latest : ℤ

def nanos : ℕ := 1000000000

/-- `Instant + Duration`. -/
def Clock.add (clock : Clock) (instant : ℤ) (duration : ℕ) : Except Panic ℤ :=
  if instant + duration ≤ clock.latest then .ok (instant + duration)
  else .error "overflow when adding duration to instant"

def Clock.checkedSub (clock : Clock) (instant : ℤ) (duration : ℕ) : Option ℤ :=
  if clock.earliest ≤ instant - duration then some (instant - duration) else none

structure CachedToken where
  accessToken : String
  expiresAt : ℤ

structure CachedAuthCodeToken where
  accessToken : String
  refreshToken : Option String
  expiresAt : ℤ
  scope : Option String

variable {clock : Clock}

theorem add_eq_ok_iff {instant expiresAt : ℤ} {duration : ℕ} :
    clock.add instant duration = .ok expiresAt ↔
      instant + duration ≤ clock.latest ∧ instant + duration = expiresAt := by
  unfold Clock.add
  split <;> simp_all

inductive Provider where
  | clientCredentials
  | authorizationCode
  | authorizationFlow
deriving DecidableEq

namespace Provider

def Token : Provider → Type
  | .clientCredentials => CachedToken
  | .authorizationCode => CachedAuthCodeToken
  | .authorizationFlow => OAuthStoredToken

def accessToken : (provider : Provider) → provider.Token → String
  | .clientCredentials, token => CachedToken.accessToken token
  | .authorizationCode, token => CachedAuthCodeToken.accessToken token
  | .authorizationFlow, token => OAuthStoredToken.accessToken token

def isTokenValid (clock : Clock) (buffer : ℕ) (now : Moment) :
    (provider : Provider) → provider.Token → Bool
  | .clientCredentials, token =>
    (clock.checkedSub (CachedToken.expiresAt token) buffer).any fun effective =>
      decide (now.instant < effective)
  | .authorizationCode, token =>
    (clock.checkedSub (CachedAuthCodeToken.expiresAt token) buffer).any fun effective =>
      decide (now.instant < effective)
  | .authorizationFlow, token => tokenIsValid token (buffer / nanos) now.unix

def lifetime (provider : Provider) (response : TokenResponse) : ℕ :=
  response.expiresIn.getD (if provider = .authorizationFlow then unixTimeMax else 3600)

def tokenOf (clock : Clock) (now : Moment) (response : TokenResponse) :
    (provider : Provider) → Option provider.Token →
      Except Panic (Except OAuthClientError provider.Token)
  | .clientCredentials, _ =>
    (clock.add now.instant (nanos * lifetime .clientCredentials response)).map fun expiresAt =>
      .ok (CachedToken.mk response.accessToken expiresAt)
  | .authorizationCode, previous =>
    (clock.add now.instant (nanos * lifetime .authorizationCode response)).map fun expiresAt =>
      let scope :=
        match response.scope with
        | some granted =>
          let granted := " ".intercalate (splitAsciiWhitespace granted)
          if granted.isEmpty then none else some granted
        | none => previous.bind CachedAuthCodeToken.scope
      .ok (CachedAuthCodeToken.mk response.accessToken
        (response.refreshToken.or (previous.bind CachedAuthCodeToken.refreshToken)) expiresAt scope)
  | .authorizationFlow, previous =>
    .ok (tokenFromResponse response ((previous.map OAuthStoredToken.scopes).getD [])
      (previous.bind OAuthStoredToken.refreshToken) now.unix)

end Provider

/-- A call of `get_token`: what is cached, the clocks each time they are read, the answer of the token
endpoint and, of the store of the flow, what it loads before and after and how it takes a write. -/
structure Call (provider : Provider) where
  clock : Clock
  buffer : ℕ
  cache : Option provider.Token
  now : ℕ → Moment
  answer : Except OAuthClientError TokenResponse
  loaded : Except OAuthClientError (Option provider.Token) := .ok none
  reloaded : Except OAuthClientError (Option provider.Token) := .ok none
  removed : Except OAuthClientError Unit := .ok ()
  saved : Except OAuthClientError Unit := .ok ()

abbrev Outcome (provider : Provider) : Type :=
  Except Panic (Except OAuthClientError String × Option provider.Token)

namespace Call

variable {provider : Provider} (call : Call provider)

def valid (reading : ℕ) : Option provider.Token :=
  call.cache.filter fun token =>
    provider.isTokenValid call.clock call.buffer (call.now reading) token

def adoptable (token : provider.Token) (stored : Option provider.Token) (reading : ℕ) :
    Option provider.Token :=
  stored.filter fun stored => provider.accessToken stored != provider.accessToken token &&
    provider.isTokenValid call.clock call.buffer (call.now reading) stored

def receive (response : TokenResponse) : Outcome provider :=
  (Provider.tokenOf call.clock (call.now 3) response provider call.cache).map fun result =>
    match result, call.saved with
    | .error error, _ | .ok _, .error error => (.error error, call.cache)
    | .ok token, .ok () => (.ok (provider.accessToken token), some token)

def fetchToken (call : Call .clientCredentials) : Outcome .clientCredentials :=
  match call.answer with
  | .error error => .ok (.error error, call.cache)
  | .ok response => { call with saved := .ok () }.receive response

def noValidToken : OAuthClientError :=
  .tokenRequest "No valid token available; reauthorization is required. Call start() again."

def refreshCached (call : Call .authorizationCode) : Outcome .authorizationCode :=
  match call.cache.bind CachedAuthCodeToken.refreshToken, call.answer with
  | none, _ => .ok (.error noValidToken, call.cache)
  | some _, .error (.tokenRefreshRejected _) => .ok (.error noValidToken, none)
  | some _, .error _ => .ok (.error noValidToken, call.cache)
  | some _, .ok response => { call with saved := .ok () }.receive response

def restore (call : Call .authorizationFlow) (token : OAuthStoredToken) (error : OAuthClientError) :
    Outcome .authorizationFlow :=
  match call.reloaded with
  | .error error => .ok (.error error, call.cache)
  | .ok stored =>
    match call.adoptable token stored 4 with
    | some stored => .ok (.ok (OAuthStoredToken.accessToken stored), some stored)
    | none =>
      if stored.all fun stored => !tokensDiffer stored token then
        match call.removed with
        | .error error => .ok (.error error, none)
        | .ok () => .ok (.error error, none)
      else .ok (.error error, none)

def refreshStored (call : Call .authorizationFlow) : Outcome .authorizationFlow :=
  match call.cache with
  | none =>
    .ok (.error (.tokenRequest
      "OAuthAuthorizationFlow is not authorized; call authorize() or begin()"), none)
  | some token =>
    match call.loaded with
    | .error error => .ok (.error error, call.cache)
    | .ok stored =>
      match call.adoptable token stored 2, OAuthStoredToken.refreshToken token, call.answer with
      | some stored, _, _ => .ok (.ok (OAuthStoredToken.accessToken stored), some stored)
      | none, none, _ =>
        .ok (.error (.tokenRequest
          ("OAuth access token expired and no refresh token is available; call authorize() " ++
            "or begin() again to reauthorize")), call.cache)
      | none, some _, .error (.tokenRefreshRejected message) =>
        call.restore token (.tokenRefreshRejected message)
      | none, some _, .error error => .ok (.error error, call.cache)
      | none, some _, .ok response => call.receive response

/-- `get_token`, which looks at the cached token again once it has the lock. -/
def getToken : {provider : Provider} → Call provider → Outcome provider
  | provider, call =>
    match call.valid 0, call.valid 1 with
    | some token, _ | none, some token => .ok (.ok (provider.accessToken token), call.cache)
    | none, none =>
      match provider, call with
      | .clientCredentials, call => call.fetchToken
      | .authorizationCode, call => call.refreshCached
      | .authorizationFlow, call => call.refreshStored

def Requests : {provider : Provider} → Call provider → Prop
  | .clientCredentials, call => call.valid 0 = none ∧ call.valid 1 = none
  | .authorizationCode, call => call.valid 0 = none ∧ call.valid 1 = none ∧
    (call.cache.bind CachedAuthCodeToken.refreshToken).isSome = true
  | .authorizationFlow, call => call.valid 0 = none ∧ call.valid 1 = none ∧
    ∃ (token : OAuthStoredToken) (stored : Option OAuthStoredToken), call.cache = some token ∧
      call.loaded = .ok stored ∧ call.adoptable token stored 2 = none ∧
        token.refreshToken.isSome = true

def Takes (response : TokenResponse) : Prop :=
  provider = .authorizationFlow →
    toAsciiLowercase response.tokenType = "bearer" ∧ call.saved = .ok ()

structure Sound : Prop where
  completes : ∃ outcome, call.getToken = .ok outcome
  returns : ∀ response outcome, call.answer = .ok response → call.Requests → call.Takes response →
    call.getToken = .ok outcome → outcome.1 = .ok response.accessToken
  ordered : ∀ (shorter longer : TokenResponse) (short long : provider.Token),
    provider.lifetime shorter ≤ provider.lifetime longer →
    provider.tokenOf call.clock (call.now 3) shorter call.cache = .ok (.ok short) →
    provider.tokenOf call.clock (call.now 3) longer call.cache = .ok (.ok long) →
    ∀ moment, provider.isTokenValid call.clock call.buffer moment short = true →
      provider.isTokenValid call.clock call.buffer moment long = true

end Call

namespace Provider

variable {provider : Provider} {clock : Clock} {response : TokenResponse}

def expiresAt : (provider : Provider) → provider.Token → ℤ
  | .clientCredentials, token => CachedToken.expiresAt token
  | .authorizationCode, token => CachedAuthCodeToken.expiresAt token
  | .authorizationFlow, token => (OAuthStoredToken.expiresAt token : ℤ)

def expiry (provider : Provider) (now : Moment) (lifetime : ℕ) : ℤ :=
  if provider = .authorizationFlow then (min (now.unix + lifetime) unixTimeMax : ℕ)
  else now.instant + (nanos * lifetime : ℕ)

theorem expiry_le (now : Moment) {shorter longer : ℕ} (h : shorter ≤ longer) :
    provider.expiry now shorter ≤ provider.expiry now longer := by
  have hnanos := Nat.mul_le_mul_left nanos h
  unfold expiry
  split <;> omega

theorem valid_of_expires_at_le {short long : provider.Token} {buffer : ℕ} {moment : Moment}
    (hle : provider.expiresAt short ≤ provider.expiresAt long)
    (h : provider.isTokenValid clock buffer moment short = true) :
    provider.isTokenValid clock buffer moment long = true := by
  have hinstant {short long now : ℤ} (hle : short ≤ long)
      (h : ((clock.checkedSub short buffer).any fun effective => decide (now < effective)) = true) :
      ((clock.checkedSub long buffer).any fun effective => decide (now < effective)) = true := by
    unfold Clock.checkedSub at h ⊢
    split at h
    next hearliest =>
      rw [if_pos (by omega)]
      simp only [Option.any_some, decide_eq_true_eq] at h ⊢
      omega
    next => cases h
  cases provider with
  | clientCredentials => exact hinstant hle h
  | authorizationCode => exact hinstant hle h
  | authorizationFlow =>
    have hlater : OAuthStoredToken.expiresAt short ≤ OAuthStoredToken.expiresAt long :=
      Int.ofNat_le.1 hle
    exact decide_eq_true (Nat.lt_of_lt_of_le (of_decide_eq_true h) hlater)

variable {now : Moment} {previous : Option provider.Token}

theorem token_of_eq_ok {token : provider.Token}
    (h : provider.tokenOf clock now response previous = .ok (.ok token)) :
    provider.accessToken token = response.accessToken ∧
      provider.expiresAt token = provider.expiry now (provider.lifetime response) := by
  cases provider with
  | clientCredentials =>
    obtain ⟨expiresAt, hadd, heq⟩ := map_eq_ok.1 h
    cases heq
    exact ⟨rfl, (add_eq_ok_iff.1 hadd).2.symm⟩
  | authorizationCode =>
    obtain ⟨expiresAt, hadd, heq⟩ := map_eq_ok.1 h
    cases heq
    exact ⟨rfl, (add_eq_ok_iff.1 hadd).2.symm⟩
  | authorizationFlow =>
    have hread := Except.ok.inj h
    unfold tokenFromResponse at hread
    split at hread
    next => cases hread
    next =>
      cases hread
      refine ⟨rfl, ?_⟩
      cases hexpires : response.expiresIn <;>
        simp [Provider.lifetime, Provider.expiresAt, Provider.expiry, hexpires]

theorem token_of_completes_iff :
    (∃ result, provider.tokenOf clock now response previous = .ok result) ↔
      provider = .authorizationFlow ∨
        provider.expiry now (provider.lifetime response) ≤ clock.latest := by
  have hadd (instant : ℤ) (duration : ℕ) : (∃ expiresAt, clock.add instant duration = .ok expiresAt) ↔
      instant + duration ≤ clock.latest := by
    simp [add_eq_ok_iff]
  have hmap {α : Type} (f : ℤ → α) (outcome : Except Panic ℤ) :
      (∃ result, outcome.map f = .ok result) ↔ ∃ expiresAt, outcome = .ok expiresAt := by
    cases outcome <;> simp [Except.map]
  cases provider with
  | clientCredentials => exact ((hmap _ _).trans (hadd _ _)).trans (or_iff_right (by decide)).symm
  | authorizationCode => exact ((hmap _ _).trans (hadd _ _)).trans (or_iff_right (by decide)).symm
  | authorizationFlow => exact iff_of_true ⟨_, rfl⟩ (.inl rfl)

theorem exists_token
    {result : Except OAuthClientError provider.Token}
    (h : provider.tokenOf clock now response previous = .ok result)
    (hbearer : provider = .authorizationFlow → toAsciiLowercase response.tokenType = "bearer") :
    ∃ token, result = .ok token := by
  cases provider with
  | clientCredentials =>
    obtain ⟨expiresAt, -, heq⟩ := map_eq_ok.1 h
    exact ⟨_, heq.symm⟩
  | authorizationCode =>
    obtain ⟨expiresAt, -, heq⟩ := map_eq_ok.1 h
    exact ⟨_, heq.symm⟩
  | authorizationFlow =>
    have hread := Except.ok.inj h
    rw [tokenFromResponse, if_neg (by simp [hbearer rfl])] at hread
    exact ⟨_, hread.symm⟩

end Provider

namespace Call

variable {provider : Provider} {call : Call provider} {response : TokenResponse}

theorem receive_completes_iff : (∃ outcome, call.receive response = .ok outcome) ↔
    provider = .authorizationFlow ∨
      provider.expiry (call.now 3) (provider.lifetime response) ≤ call.clock.latest := by
  have htoken : (∃ result, provider.tokenOf call.clock (call.now 3) response call.cache =
      .ok result) ↔ _ := Provider.token_of_completes_iff
  rw [← htoken]
  unfold receive
  cases provider.tokenOf call.clock (call.now 3) response call.cache <;> simp [Except.map]

theorem get_token_of_requests (h : call.Requests) (hanswer : call.answer = .ok response) :
    call.getToken =
      (if provider = .authorizationFlow then call else { call with saved := .ok () }).receive
        response := by
  cases provider with
  | clientCredentials => simp [getToken, h.1, h.2, fetchToken, hanswer]
  | authorizationCode =>
    obtain ⟨token, htoken⟩ := Option.isSome_iff_exists.1 h.2.2
    simp [getToken, h.1, h.2.1, refreshCached, hanswer, htoken]
  | authorizationFlow =>
    obtain ⟨hfirst, hsecond, token, stored, hcache, hloaded, hadoptable, hrefresh⟩ := h
    obtain ⟨refresh, hsome⟩ := Option.isSome_iff_exists.1 hrefresh
    simp [getToken, hfirst, hsecond, refreshStored, hanswer, hcache, hloaded, hadoptable, hsome]

theorem restore_completes (call : Call .authorizationFlow) (token : OAuthStoredToken)
    (error : OAuthClientError) : ∃ outcome, call.restore token error = .ok outcome := by
  unfold restore
  split
  next => exact ⟨_, rfl⟩
  next =>
    split
    next => exact ⟨_, rfl⟩
    next =>
      split
      next => split <;> exact ⟨_, rfl⟩
      next => exact ⟨_, rfl⟩

theorem refresh_stored_completes (call : Call .authorizationFlow) :
    ∃ outcome, call.refreshStored = .ok outcome := by
  unfold refreshStored
  split
  next => exact ⟨_, rfl⟩
  next =>
    split
    next => exact ⟨_, rfl⟩
    next =>
      split
      next => exact ⟨_, rfl⟩
      next => exact ⟨_, rfl⟩
      next => exact restore_completes _ _ _
      next => exact ⟨_, rfl⟩
      next => exact receive_completes_iff.2 (.inl rfl)

theorem get_token_completes (h : call.Requests → provider = .authorizationFlow ∨
    ∃ error, call.answer = .error error) : ∃ outcome, call.getToken = .ok outcome := by
  cases hfirst : call.valid 0 with
  | some token => exact ⟨(.ok (provider.accessToken token), call.cache), by simp [getToken, hfirst]⟩
  | none =>
    cases hsecond : call.valid 1 with
    | some token =>
      exact ⟨(.ok (provider.accessToken token), call.cache), by simp [getToken, hfirst, hsecond]⟩
    | none =>
      cases provider with
      | clientCredentials =>
        obtain ⟨error, herror⟩ := (h ⟨hfirst, hsecond⟩).resolve_left nofun
        exact ⟨(.error error, call.cache), by simp [getToken, hfirst, hsecond, fetchToken, herror]⟩
      | authorizationCode =>
        have hget : call.getToken = call.refreshCached := by simp [getToken, hfirst, hsecond]
        rw [hget, refreshCached]
        cases hrefresh : call.cache.bind CachedAuthCodeToken.refreshToken with
        | none => exact ⟨_, rfl⟩
        | some token =>
          obtain ⟨error, herror⟩ :=
            (h ⟨hfirst, hsecond, by rw [hrefresh]; rfl⟩).resolve_left nofun
          rw [herror]
          cases error <;> exact ⟨_, rfl⟩
      | authorizationFlow =>
        have hget : call.getToken = call.refreshStored := by simp [getToken, hfirst, hsecond]
        rw [hget]
        exact refresh_stored_completes call

theorem receive_returns {outcome : Except OAuthClientError String × Option provider.Token}
    (hsaved : call.saved = .ok ())
    (hbearer : provider = .authorizationFlow → toAsciiLowercase response.tokenType = "bearer")
    (h : call.receive response = .ok outcome) : outcome.1 = .ok response.accessToken := by
  obtain ⟨result, hresult, heq⟩ := map_eq_ok.1 h
  obtain ⟨token, rfl⟩ := Provider.exists_token hresult hbearer
  rw [hsaved] at heq
  cases heq
  exact congrArg _ (Provider.token_of_eq_ok hresult).1

end Call

/-- A call of `get_token` is sound exactly when its provider is the flow, it does not ask the token
endpoint, or an `Instant` can hold the expiry of the token that it is answered with. -/
theorem get_token_sound_iff (provider : Provider) (call : Call provider) :
    call.Sound ↔ provider = .authorizationFlow ∨ ¬call.Requests ∨ ∀ response,
      call.answer = .ok response →
        provider.expiry (call.now 3) (provider.lifetime response) ≤ call.clock.latest := by
  constructor
  · intro h
    refine or_iff_not_imp_left.2 fun hflow => or_iff_not_imp_left.2 fun hrequests response hanswer => ?_
    have hcompletes := h.completes
    rw [Call.get_token_of_requests (not_not.1 hrequests) hanswer, if_neg hflow] at hcompletes
    exact (Call.receive_completes_iff.1 hcompletes).resolve_left hflow
  · intro h
    refine ⟨?_, fun response outcome hanswer hrequests htakes hget => ?_,
      fun _ _ _ _ hle hshort hlong _ => Provider.valid_of_expires_at_le ?_⟩
    · by_cases hflow : provider = .authorizationFlow
      · exact Call.get_token_completes fun _ => .inl hflow
      · by_cases hrequests : call.Requests
        · cases hanswer : call.answer with
          | error error => exact Call.get_token_completes fun _ => .inr ⟨error, hanswer⟩
          | ok response =>
            rw [Call.get_token_of_requests hrequests hanswer, if_neg hflow]
            exact Call.receive_completes_iff.2
              (.inr (((h.resolve_left hflow).resolve_left (not_not.2 hrequests)) _ hanswer))
        · exact Call.get_token_completes fun hasks => absurd hasks hrequests
    · rw [Call.get_token_of_requests hrequests hanswer] at hget
      refine Call.receive_returns ?_ (fun hflow => (htakes hflow).1) hget
      split
      next hflow => exact (htakes hflow).2
      next => rfl
    · rw [(Provider.token_of_eq_ok hshort).2, (Provider.token_of_eq_ok hlong).2]
      exact Provider.expiry_le _ hle

/-- The largest lifetime makes a call panic. -/
theorem largest_lifetime_panics : ¬∀ (provider : Provider) (call : Call provider), call.Sound := by
  intro h
  let call : Call .clientCredentials :=
    { clock := ⟨0, 2 ^ 63 * nanos - 1⟩
      buffer := 30 * nanos
      cache := none
      now := fun _ => ⟨1, 1⟩
      answer := .ok { accessToken := "a", tokenType := "Bearer", expiresIn := some unixTimeMax } }
  obtain ⟨outcome, houtcome⟩ := (h .clientCredentials call).completes
  have hpanics : call.getToken = .error "overflow when adding duration to instant" := by rfl
  rw [hpanics] at houtcome
  cases houtcome

end TowerMcp.TokenLifetimes
