import TowerMcp.OAuth.Jwks

/-!
# Rotation of keys

Whether a token signed by a key that the endpoint publishes is accepted. A fetch that returns a set
makes its keys available when all of them can be used and no two share a `kid`. Between two fetches
the cache answers by itself: the single key that it holds answers a `kid` that it does not have, and a
key that was replaced under its `kid` answers for the new one. `rotation_followed` says that nothing
else goes wrong over a run.
-/

namespace TowerMcp

open Execution Fallible

variable {K : Type}

/-! ## Sets of keys -/

section Sets

variable (lib : JsonWebToken K)

def Jwk.Usable (jwk : Jwk) : Prop :=
  ∃ key, cachedKey lib jwk = .ok key

/-- A key is the only one under its `kid`. -/
def Jwk.Sole (jwk : Jwk) (jwks : List Jwk) : Prop :=
  ∀ other ∈ jwks, other.keyId = jwk.keyId → other = jwk

/-- A set whose keys can all be used, and in which no two keys share a `kid`. -/
structure WellFormedKeys (jwks : List Jwk) : Prop where
  usable : ∀ jwk ∈ jwks, jwk.Usable lib
  distinct : ∀ jwk ∈ jwks, jwk.keyId ≠ none → jwk.Sole jwks

/-- Every key of a set that can be used is available once the set is fetched, when no other key has
its `kid`. -/
def KeepsUsable (jwks : List Jwk) : Prop :=
  ∀ jwk ∈ jwks, jwk.Usable lib → jwk.Sole jwks →
    ∃ keys key, parseJwkSet lib jwks = .ok keys ∧ cachedKey lib jwk = .ok key ∧
      keys.lookup jwk.keyId = some key

end Sets

/-- A `kid` stands for a key of a set: it is the one of that key, which is the only one without a
`kid` if it has none, or there is no other key. -/
def Addresses (kid : Option String) (jwk : Jwk) (jwks : List Jwk) : Prop :=
  (kid = jwk.keyId ∧ (kid = none → jwk.Sole jwks)) ∨ ∀ other ∈ jwks, other = jwk

section Parsing

variable {lib : JsonWebToken K} {jwks : List Jwk} {jwk : Jwk} {key : CachedKey K}
  {keys : FinMap (Option String) (CachedKey K)}

theorem insert_jwk_eq_ok {initial : FinMap (Option String) (CachedKey K)} :
    insertJwk lib initial jwk = .ok keys ↔
      ∃ key, cachedKey lib jwk = .ok key ∧ initial.insert jwk.keyId key = keys := by
  unfold insertJwk
  rw [bind_eq_ok]
  simp only [pure_eq_ok]

theorem parsed_iff (initial : FinMap (Option String) (CachedKey K)) :
    (∃ keys, jwks.foldlM (insertJwk lib) initial = .ok keys) ↔ ∀ jwk ∈ jwks, jwk.Usable lib := by
  induction jwks generalizing initial with
  | nil => exact ⟨fun _ => List.forall_mem_nil _, fun _ => ⟨initial, rfl⟩⟩
  | cons first rest ih =>
    rw [List.forall_mem_cons]
    simp only [List.foldlM_cons, bind_eq_ok, insert_jwk_eq_ok]
    constructor
    · rintro ⟨keys, _, ⟨key, hkey, rfl⟩, hrest⟩
      exact ⟨⟨key, hkey⟩, (ih _).1 ⟨keys, hrest⟩⟩
    · rintro ⟨⟨key, hkey⟩, hrest⟩
      obtain ⟨keys, hkeys⟩ := (ih (initial.insert first.keyId key)).2 hrest
      exact ⟨keys, _, ⟨key, hkey, rfl⟩, hkeys⟩

theorem parse_jwk_set_iff :
    (∃ keys, parseJwkSet lib jwks = .ok keys) ↔ ∀ jwk ∈ jwks, jwk.Usable lib :=
  parsed_iff ∅

theorem lookup_of_parsed {kid : Option String}
    (hsame : ∀ jwk ∈ jwks, jwk.keyId = kid → cachedKey lib jwk = .ok key)
    (initial : FinMap (Option String) (CachedKey K))
    (hparsed : jwks.foldlM (insertJwk lib) initial = .ok keys) :
    keys.lookup kid = if ∃ jwk ∈ jwks, jwk.keyId = kid then some key else initial.lookup kid := by
  induction jwks generalizing initial with
  | nil =>
    cases hparsed
    simp
  | cons first rest ih =>
    rw [List.forall_mem_cons] at hsame
    rw [List.foldlM_cons] at hparsed
    obtain ⟨middle, hmiddle, hrest⟩ := bind_eq_ok.1 hparsed
    obtain ⟨own, hown, rfl⟩ := insert_jwk_eq_ok.1 hmiddle
    rw [ih hsame.2 _ hrest, FinMap.lookup_insert_eq_ite]
    by_cases hlater : ∃ jwk ∈ rest, jwk.keyId = kid
    · have hsome : ∃ jwk ∈ first :: rest, jwk.keyId = kid := by
        obtain ⟨jwk, hmem, hkid⟩ := hlater
        exact ⟨jwk, List.mem_cons_of_mem _ hmem, hkid⟩
      rw [if_pos hlater, if_pos hsome]
    · rw [if_neg hlater]
      by_cases hfirst : first.keyId = kid
      · have hkey := hown.symm.trans (hsame.1 hfirst)
        rw [if_pos hfirst.symm, if_pos ⟨first, List.mem_cons_self, hfirst⟩, Except.ok.inj hkey]
      · have hnone : ¬∃ jwk ∈ first :: rest, jwk.keyId = kid := by
          simp only [List.mem_cons, exists_eq_or_imp, hfirst, false_or]
          exact hlater
        rw [if_neg (Ne.symm hfirst), if_neg hnone]

theorem lookup_of_sole (hparsed : parseJwkSet lib jwks = .ok keys) (hmem : jwk ∈ jwks)
    (hsole : jwk.Sole jwks) (hkey : cachedKey lib jwk = .ok key) :
    keys.lookup jwk.keyId = some key := by
  have hsame : ∀ other ∈ jwks, other.keyId = jwk.keyId → cachedKey lib other = .ok key := by
    intro other hother hkid
    rw [hsole other hother hkid]
    exact hkey
  rw [lookup_of_parsed hsame ∅ hparsed, if_pos ⟨jwk, hmem, rfl⟩]

def singleKey (jwk : Jwk) (key : CachedKey K) : FinMap (Option String) (CachedKey K) :=
  (∅ : FinMap (Option String) (CachedKey K)).insert jwk.keyId key

theorem parsed_of_repeated (hsame : ∀ other ∈ jwks, other = jwk)
    (hkey : cachedKey lib jwk = .ok key) :
    jwks.foldlM (insertJwk lib) (singleKey jwk key) = .ok (singleKey jwk key) := by
  induction jwks with
  | nil => rfl
  | cons first rest ih =>
    rw [List.forall_mem_cons] at hsame
    have hinsert : insertJwk lib (singleKey jwk key) jwk = .ok (singleKey jwk key) :=
      insert_jwk_eq_ok.2 ⟨key, hkey, AList.insert_insert _⟩
    rw [List.foldlM_cons, hsame.1, hinsert]
    exact ih hsame.2

theorem parse_of_repeated (hmem : jwk ∈ jwks) (hsame : ∀ other ∈ jwks, other = jwk)
    (hkey : cachedKey lib jwk = .ok key) :
    parseJwkSet lib jwks = .ok (singleKey jwk key) := by
  obtain ⟨first, rest, rfl⟩ := List.exists_cons_of_ne_nil (List.ne_nil_of_mem hmem)
  rw [List.forall_mem_cons] at hsame
  have hinsert : insertJwk lib ∅ jwk = .ok (singleKey jwk key) :=
    insert_jwk_eq_ok.2 ⟨key, hkey, rfl⟩
  unfold parseJwkSet
  rw [List.foldlM_cons, hsame.1, hinsert]
  exact parsed_of_repeated hsame.2 hkey

theorem lookup_key_single (jwk : Jwk) (key : CachedKey K) (kid : Option String) :
    lookupKey (singleKey jwk key) kid = some key := by
  unfold lookupKey singleKey
  rw [FinMap.lookup_insert_eq_ite]
  split
  next found hlookup =>
    split at hlookup
    next => exact hlookup.symm
    next => simp at hlookup
  next => rfl

theorem lookup_key_of_addresses {kid : Option String} (hformed : WellFormedKeys lib jwks)
    (hparsed : parseJwkSet lib jwks = .ok keys) (hmem : jwk ∈ jwks)
    (haddresses : Addresses kid jwk jwks) :
    ∃ key, cachedKey lib jwk = .ok key ∧ lookupKey keys kid = some key := by
  obtain ⟨key, hkey⟩ := hformed.usable jwk hmem
  refine ⟨key, hkey, ?_⟩
  obtain ⟨rfl, hnone⟩ | hsame := haddresses
  · have hsole : jwk.Sole jwks := by
      by_cases hkid : jwk.keyId = none
      · exact hnone hkid
      · exact hformed.distinct jwk hmem hkid
    unfold lookupKey
    rw [lookup_of_sole hparsed hmem hsole hkey]
  · obtain rfl := Except.ok.inj ((parse_of_repeated hmem hsame hkey).symm.trans hparsed)
    exact lookup_key_single jwk key kid

theorem keeps_usable_iff :
    KeepsUsable lib jwks ↔
      (∀ jwk ∈ jwks, jwk.Usable lib) ∨ ∀ jwk ∈ jwks, jwk.Usable lib → ¬jwk.Sole jwks := by
  constructor
  · intro h
    by_cases hsome : ∃ jwk ∈ jwks, jwk.Usable lib ∧ jwk.Sole jwks
    · obtain ⟨jwk, hmem, husable, hsole⟩ := hsome
      obtain ⟨keys, _, hparsed, _, _⟩ := h jwk hmem husable hsole
      exact .inl (parse_jwk_set_iff.1 ⟨keys, hparsed⟩)
    · exact .inr fun jwk hmem husable hsole => hsome ⟨jwk, hmem, husable, hsole⟩
  · rintro (husable | hnone) jwk hmem ⟨key, hkey⟩ hsole
    · obtain ⟨keys, hparsed⟩ := parse_jwk_set_iff.2 husable
      exact ⟨keys, key, hparsed, hkey, lookup_of_sole hparsed hmem hsole hkey⟩
    · exact absurd hsole (hnone jwk hmem ⟨key, hkey⟩)

end Parsing

/-! ## Tokens -/

namespace JwksServer

variable (validator : JwksValidator K)

/-- A token is signed by a key, and its claims are valid at a time: the library accepts it with that
key and the algorithm of its own header. -/
def Genuine (token : String) (header : JwtHeader) (time : Instant) (jwk : Jwk) : Prop :=
  ∃ key claims, validator.lib.fromJwk jwk = .ok key ∧
    validator.lib.decode token key
      { validator.validationTemplate with algorithms := [header.alg] } time = .ok claims

def Excused (attempts : List Attempt) (jwk : Jwk) (time : Instant) : Prop :=
  ∃ attempt ∈ attempts, attempt.time ≤ time ∧
    time ≤ attempt.time + validator.minRefreshInterval ∧
    ∀ jwks, attempt.returned = some jwks → jwk ∉ jwks

/-- A token that is signed by a key of the endpoint, which its `kid` stands for, is refused only when
a fetch in the last interval did not return that key. -/
def Verdict.Followed (attempts : List Attempt) (verdict : Verdict) : Prop :=
  ∀ jwk ∈ verdict.published,
    Genuine validator verdict.token verdict.header verdict.time jwk →
      Addresses verdict.header.kid jwk verdict.published →
        (∃ error, verdict.outcome = .error error) →
          Excused validator attempts jwk verdict.time

def Followed (server : JwksServer K) : Prop :=
  ∀ verdict ∈ server.verdicts, Verdict.Followed validator server.attempts verdict

/-- The cache is in a position to answer a token for a key: the algorithm of the token is the one that
the code finds for the key; a fresh cache that was not filled a moment ago finds that key for the
`kid`, or none; and the `kid` stands for the key in a set that was fetched a moment ago too. -/
structure Answerable (server : JwksServer K) (header : JwtHeader) (now : Instant) (jwk : Jwk) :
    Prop where
  algorithm : ∀ key, cachedKey validator.lib jwk = .ok key → key.algorithm = header.alg
  fresh : validator.isThrottled server.cache now = false →
    ∀ key, JwksValidator.freshKey server.cache header.kid now = some key →
      cachedKey validator.lib jwk = .ok key
  recent : validator.isThrottled server.cache now = true →
    ∀ attempt ∈ server.attempts, attempt.time = server.cache.fetchedAt →
      ∀ jwks, attempt.returned = some jwks → jwk ∈ jwks → Addresses header.kid jwk jwks

/-- A validation that does not run into the cache: a set that it fetches is well formed, and the cache
is in a position to answer. -/
def Meets (server : JwksServer K) : Event → Prop
  | .publish _ => True
  | .validate token now fetch =>
    ∀ header, validator.lib.decodeHeader token = .ok header →
      (validator.fetches server.cache header.kid now = true →
        ∀ jwks, fetch.response.returned server.published = some jwks →
          WellFormedKeys validator.lib jwks) ∧
      ∀ jwk ∈ server.published,
        Genuine validator token header (validator.ends server.cache header.kid now fetch) jwk →
          Addresses header.kid jwk server.published →
            Answerable validator server header now jwk

structure Sound (server : JwksServer K) : Prop where
  clock : server.cache.fetchedAt ≤ server.clock
  filled : ∃ attempt ∈ server.attempts, attempt.time = server.cache.fetchedAt ∧
    ∀ jwks, attempt.returned = some jwks →
      WellFormedKeys validator.lib jwks ∧ parseJwkSet validator.lib jwks = .ok server.cache.keys
  followed : Followed validator server

variable {validator} {server next : JwksServer K} {token : String} {header : JwtHeader}
  {now : Instant} {jwk : Jwk} {key : CachedKey K} {attempts later : List Attempt}

theorem Excused.mono {time : Instant} (hlater : attempts ⊆ later)
    (h : Excused validator attempts jwk time) : Excused validator later jwk time := by
  obtain ⟨attempt, hmem, hattempt⟩ := h
  exact ⟨attempt, hlater hmem, hattempt⟩

theorem Verdict.Followed.mono {verdict : Verdict} (hlater : attempts ⊆ later)
    (h : Verdict.Followed validator attempts verdict) :
    Verdict.Followed validator later verdict :=
  fun jwk hmem hgenuine haddresses herror => (h jwk hmem hgenuine haddresses herror).mono hlater

theorem verify_of_genuine (hgenuine : Genuine validator token header now jwk)
    (hkey : cachedKey validator.lib jwk = .ok key) (halg : key.algorithm = header.alg) :
    ∃ claims, validator.verify token key now = .ok claims := by
  obtain ⟨decodingKey, claims, hjwk, hdecode⟩ := hgenuine
  have hdecoding : key.decodingKey = decodingKey := by
    unfold cachedKey at hkey
    split at hkey
    next => cases hkey
    next =>
      rw [hjwk] at hkey
      cases hkey
      rfl
  refine ⟨claims, ?_⟩
  unfold JwksValidator.verify
  rw [hdecoding, halg, hdecode]

theorem lookup_key_of_recent (h : Sound validator server) (hclock : server.clock ≤ now)
    (hrecent : validator.isThrottled server.cache now = true)
    (hanswerable : Answerable validator server header now jwk) :
    Excused validator server.attempts jwk now ∨
      ∃ key, cachedKey validator.lib jwk = .ok key ∧
        lookupKey server.cache.keys header.kid = some key := by
  obtain ⟨attempt, hattempt, htime, hreturned⟩ := h.filled
  by_cases hmem : ∃ jwks, attempt.returned = some jwks ∧ jwk ∈ jwks
  · obtain ⟨jwks, hjwks, hmem⟩ := hmem
    obtain ⟨hformed, hparsed⟩ := hreturned jwks hjwks
    have haddresses := hanswerable.recent hrecent attempt hattempt htime jwks hjwks hmem
    exact .inr (lookup_key_of_addresses hformed hparsed hmem haddresses)
  · have hfetched : server.cache.fetchedAt ≤ now := h.clock.trans hclock
    have hthrottled := of_decide_eq_true hrecent
    have hwithin := ((Nat.sub_lt_iff_lt_add' hfetched).1 hthrottled).le
    rw [← htime] at hfetched hwithin
    exact .inl ⟨attempt, hattempt, hfetched, hwithin, fun jwks hjwks hin => hmem ⟨jwks, hjwks, hin⟩⟩

/-! ## One validation -/

section Validation

variable {cache : JwksCache K} {published : List Jwk} {kid : Option String} {fetch : Fetch}

theorem fetches_of_throttled (fetch : Fetch) (hrecent : validator.isThrottled cache now = true) :
    validator.fetches cache kid now = false ∧ validator.ends cache kid now fetch = now := by
  have hfetches : validator.fetches cache kid now = false := by
    unfold JwksValidator.fetches
    rw [hrecent]
    exact Bool.and_false _
  refine ⟨hfetches, ?_⟩
  unfold JwksValidator.ends
  rw [hfetches]
  rfl

theorem validate_with_fresh (published : List Jwk) (token : String) (fetch : Fetch)
    (hfresh : JwksValidator.freshKey cache kid now = some key) :
    validator.validateWith cache published token kid now fetch =
        (validator.verify token key now, cache) ∧
      validator.fetches cache kid now = false ∧ validator.ends cache kid now fetch = now := by
  have hfetches : validator.fetches cache kid now = false := by
    unfold JwksValidator.fetches
    rw [hfresh]
    rfl
  have hends : validator.ends cache kid now fetch = now := by
    unfold JwksValidator.ends
    rw [hfetches]
    rfl
  refine ⟨?_, hfetches, hends⟩
  unfold JwksValidator.validateWith JwksValidator.getKey
  rw [hfresh, hends]

theorem validate_with_throttled (hfresh : JwksValidator.freshKey cache kid now = none)
    (hrecent : validator.isThrottled cache now = true)
    (hkey : lookupKey cache.keys kid = some key) :
    validator.validateWith cache published token kid now fetch =
      (validator.verify token key (validator.ends cache kid now fetch), cache) := by
  unfold JwksValidator.validateWith JwksValidator.getKey JwksValidator.refreshCache
  rw [hfresh, if_pos hrecent]
  dsimp only
  rw [hkey]

theorem validate_with_fetched {keys : FinMap (Option String) (CachedKey K)} {ttl : ℕ}
    (hfetches : validator.fetches cache kid now = true)
    (hset : fetchAndParseJwks validator.lib validator.defaultTtl published fetch.response =
      .ok (keys, ttl))
    (hkey : lookupKey keys kid = some key) :
    (validator.validateWith cache published token kid now fetch).1 =
      validator.verify token key (validator.ends cache kid now fetch) := by
  obtain ⟨hfresh, hrecent⟩ := Bool.and_eq_true_iff.1 hfetches
  have hfresh := Option.isNone_iff_eq_none.1 hfresh
  have hrecent : validator.isThrottled cache now = false := by simpa using hrecent
  unfold JwksValidator.validateWith JwksValidator.getKey JwksValidator.refreshCache
  rw [hfresh, hrecent, hset]
  simp [hkey]

theorem cache_of_validate_with :
    (validator.validateWith cache published token kid now fetch).2 =
      if validator.fetches cache kid now then
        (validator.refreshCache cache published now fetch).2
      else cache := by
  unfold JwksValidator.fetches JwksValidator.validateWith JwksValidator.getKey
  cases hfresh : JwksValidator.freshKey cache kid now with
  | some key => rfl
  | none =>
    cases hrecent : validator.isThrottled cache now with
    | true =>
      unfold JwksValidator.refreshCache
      rw [if_pos hrecent]
      dsimp only
      cases lookupKey cache.keys kid with
      | some key => rfl
      | none => rfl
    | false =>
      rcases validator.refreshCache cache published now fetch with ⟨_ | _, after⟩
      · rfl
      · dsimp only
        cases lookupKey after.keys kid with
        | some key => rfl
        | none => rfl

end Validation

/-! ## Runs -/

theorem excused_of_fetched {time : Instant} {returned : Option (List Jwk)}
    (hlacks : ∀ jwks, returned = some jwks → jwk ∉ jwks) :
    Excused validator (⟨time, returned⟩ :: attempts) jwk time :=
  ⟨_, List.mem_cons_self, le_refl _, Nat.le_add_right _ _, hlacks⟩

theorem fetched_of_returned {published jwks : List Jwk} {response : FetchResponse}
    (hreturned : response.returned published = some jwks)
    (hformed : WellFormedKeys validator.lib jwks) :
    ∃ keys ttl,
      fetchAndParseJwks validator.lib validator.defaultTtl published response = .ok (keys, ttl) ∧
        parseJwkSet validator.lib jwks = .ok keys ∧ jwks = published := by
  cases response with
  | failed _ | garbled _ => cases hreturned
  | served cacheControl =>
    cases hreturned
    obtain ⟨keys, hparsed⟩ := parse_jwk_set_iff.2 hformed.usable
    refine ⟨keys, (parseCacheControlMaxAge cacheControl).getD validator.defaultTtl, ?_, hparsed,
      rfl⟩
    unfold fetchAndParseJwks
    dsimp only
    rw [hparsed]
    rfl

theorem followed_of_meets (h : Sound validator server) {fetch : Fetch}
    (hclock : server.clock ≤ now) (hheader : validator.lib.decodeHeader token = .ok header)
    (hmeets : Meets validator server (.validate token now fetch)) :
    Verdict.Followed validator
      (if validator.fetches server.cache header.kid now then
        ⟨validator.ends server.cache header.kid now fetch,
          fetch.response.returned server.published⟩ :: server.attempts
      else server.attempts)
      ⟨validator.ends server.cache header.kid now fetch, token, header, server.published,
        (validator.validateWith server.cache server.published token header.kid now fetch).1⟩ := by
  intro jwk hmem hgenuine haddresses herror
  obtain ⟨hformed, hanswers⟩ := hmeets header hheader
  have hanswerable := hanswers jwk hmem hgenuine haddresses
  have haccepted : ∀ key, cachedKey validator.lib jwk = .ok key →
      (validator.validateWith server.cache server.published token header.kid now fetch).1 ≠
        validator.verify token key (validator.ends server.cache header.kid now fetch) := by
    intro key hkey hverified
    obtain ⟨claims, hclaims⟩ :=
      verify_of_genuine hgenuine hkey (hanswerable.algorithm key hkey)
    obtain ⟨error, herror⟩ := herror
    rw [hverified, hclaims] at herror
    cases herror
  cases hfresh : JwksValidator.freshKey server.cache header.kid now with
  | some found =>
    obtain ⟨hvalidated, hfetches, hends⟩ :=
      validate_with_fresh server.published token fetch hfresh
    rw [hfetches, hends]
    cases hrecent : validator.isThrottled server.cache now with
    | false =>
      have hkey := hanswerable.fresh hrecent found hfresh
      exact absurd (by rw [hvalidated, hends]) (haccepted found hkey)
    | true =>
      obtain hexcused | ⟨key, hkey, hlookup⟩ :=
        lookup_key_of_recent h hclock hrecent hanswerable
      · exact hexcused
      · obtain rfl : found = key := by
          obtain ⟨_, hfound⟩ := Option.ite_none_left_eq_some.1 hfresh
          exact Option.some.inj (hfound.symm.trans hlookup)
        exact absurd (by rw [hvalidated, hends]) (haccepted found hkey)
  | none =>
    cases hrecent : validator.isThrottled server.cache now with
    | true =>
      obtain ⟨hfetches, hends⟩ := fetches_of_throttled fetch hrecent
      obtain hexcused | ⟨key, hkey, hlookup⟩ :=
        lookup_key_of_recent h hclock hrecent hanswerable
      · rw [hfetches, hends]
        exact hexcused
      · exact absurd (congrArg Prod.fst (validate_with_throttled hfresh hrecent hlookup))
          (haccepted key hkey)
    | false =>
      have hfetches : validator.fetches server.cache header.kid now = true := by
        unfold JwksValidator.fetches
        rw [hfresh, hrecent]
        rfl
      rw [if_pos hfetches]
      refine excused_of_fetched fun jwks hreturned hin => ?_
      obtain ⟨keys, ttl, hfetched, hparsed, rfl⟩ :=
        fetched_of_returned hreturned (hformed hfetches jwks hreturned)
      obtain ⟨key, hkey, hlookup⟩ :=
        lookup_key_of_addresses (hformed hfetches _ hreturned) hparsed hin haddresses
      exact absurd (validate_with_fetched hfetches hfetched hlookup) (haccepted key hkey)

theorem filled_of_refreshed (h : Sound validator server) {fetch : Fetch} {kid : Option String}
    (hfetches : validator.fetches server.cache kid now = true)
    (hformed : ∀ jwks, fetch.response.returned server.published = some jwks →
      WellFormedKeys validator.lib jwks) :
    ∃ attempt ∈ (⟨validator.ends server.cache kid now fetch,
        fetch.response.returned server.published⟩ :: server.attempts : List Attempt),
      attempt.time =
          (validator.refreshCache server.cache server.published now fetch).2.fetchedAt ∧
        ∀ jwks, attempt.returned = some jwks →
          WellFormedKeys validator.lib jwks ∧ parseJwkSet validator.lib jwks =
            .ok (validator.refreshCache server.cache server.published now fetch).2.keys := by
  have hends : validator.ends server.cache kid now fetch = now + fetch.duration := if_pos hfetches
  have hrecent : validator.isThrottled server.cache now = false := by
    simpa using (Bool.and_eq_true_iff.1 hfetches).2
  unfold JwksValidator.refreshCache
  rw [hrecent, hends, if_neg Bool.false_ne_true]
  cases hfetched : fetchAndParseJwks validator.lib validator.defaultTtl server.published
      fetch.response with
  | ok fetched =>
    obtain ⟨keys, ttl⟩ := fetched
    refine ⟨_, List.mem_cons_self, rfl, fun jwks hreturned => ?_⟩
    have hjwks := hformed jwks hreturned
    obtain ⟨_, _, hsame, hparsed, -⟩ := fetched_of_returned hreturned hjwks
    obtain ⟨rfl, -⟩ := Prod.mk.inj (Except.ok.inj (hsame.symm.trans hfetched))
    exact ⟨hjwks, hparsed⟩
  | error error =>
    dsimp only
    split
    next =>
      obtain ⟨attempt, hmem, hfilled⟩ := h.filled
      exact ⟨attempt, List.mem_cons_of_mem _ hmem, hfilled⟩
    next =>
      refine ⟨_, List.mem_cons_self, rfl, fun jwks hreturned => ?_⟩
      obtain ⟨_, _, hsame, -⟩ := fetched_of_returned hreturned (hformed jwks hreturned)
      rw [hfetched] at hsame
      cases hsame

theorem fetched_at_of_refreshed (h : Sound validator server) (fetch : Fetch)
    (hclock : server.clock ≤ now) :
    (validator.refreshCache server.cache server.published now fetch).2.fetchedAt ≤
      now + fetch.duration := by
  have hbefore : server.cache.fetchedAt ≤ now + fetch.duration :=
    (h.clock.trans hclock).trans (Nat.le_add_right _ _)
  unfold JwksValidator.refreshCache
  split
  next => exact hbefore
  next =>
    split
    next => exact le_refl _
    next =>
      split
      next => exact hbefore
      next => exact le_refl _

theorem sound_step {event : Event} (h : Sound validator server)
    (hmeets : Meets validator server event) (hstep : server.step validator event = some next) :
    Sound validator next := by
  cases event with
  | publish jwks =>
    cases hstep
    exact ⟨h.clock, h.filled, h.followed⟩
  | validate token now fetch =>
    obtain ⟨hnow, hstep⟩ := Option.ite_none_left_eq_some.1 hstep
    have hclock : server.clock ≤ now := Nat.le_of_not_lt hnow
    split at hstep
    next =>
      cases hstep
      exact ⟨h.clock.trans hclock, h.filled, h.followed⟩
    next header hheader =>
      cases hstep
      have hfollowed := followed_of_meets h hclock hheader hmeets
      have hearlier : ∀ verdict ∈ server.verdicts, Verdict.Followed validator
          (if validator.fetches server.cache header.kid now then
            ⟨validator.ends server.cache header.kid now fetch,
              fetch.response.returned server.published⟩ :: server.attempts
          else server.attempts) verdict := by
        intro verdict hverdict
        refine (h.followed verdict hverdict).mono ?_
        split
        next => exact List.subset_cons_self _ _
        next => exact fun _ hmem => hmem
      refine ⟨?_, ?_, List.forall_mem_cons.2 ⟨hfollowed, hearlier⟩⟩
      · dsimp only
        rw [cache_of_validate_with]
        unfold JwksValidator.ends
        split
        next => exact fetched_at_of_refreshed h fetch hclock
        next => exact h.clock.trans hclock
      · dsimp only
        rw [cache_of_validate_with]
        cases hfetches : validator.fetches server.cache header.kid now with
        | false => exact h.filled
        | true => exact filled_of_refreshed h hfetches ((hmeets header hheader).1 hfetches)

theorem sound_start {published : List Jwk} {response : FetchResponse}
    (hformed : WellFormedKeys validator.lib published)
    (hstart : start validator published response now = some server) : Sound validator server := by
  unfold start at hstart
  split at hstart
  next => cases hstart
  next cache hbuild =>
    cases hstart
    obtain ⟨⟨keys, ttl⟩, hfetched, hcache⟩ := bind_eq_ok.1 hbuild
    cases hcache
    refine ⟨le_refl _, ⟨_, List.mem_cons_self, rfl, fun jwks hreturned => ?_⟩,
      List.forall_mem_nil _⟩
    have hjwks : WellFormedKeys validator.lib jwks := by
      cases response with
      | failed _ | garbled _ => cases hreturned
      | served _ =>
        cases hreturned
        exact hformed
    obtain ⟨_, _, hsame, hparsed, -⟩ := fetched_of_returned hreturned hjwks
    obtain ⟨rfl, -⟩ := Prod.mk.inj (Except.ok.inj (hsame.symm.trans hfetched))
    exact ⟨hjwks, hparsed⟩

/-- In every run whose steps meet the condition, every verdict follows the keys of the endpoint; and a
set keeps its keys available exactly when all of them can be used, or none of those that can is alone
under its `kid`. -/
theorem rotation_followed (validator : JwksValidator K) :
    (∀ (published : List Jwk) (response : FetchResponse) (now : Instant) (server : JwksServer K)
        (events : List Event),
      WellFormedKeys validator.lib published →
        start validator published response now = some server →
          Along (JwksServer.step validator) (Meets validator) server events →
            Throughout (JwksServer.step validator) (Followed validator) server events) ∧
      ∀ jwks, KeepsUsable validator.lib jwks ↔
        (∀ jwk ∈ jwks, jwk.Usable validator.lib) ∨
          ∀ jwk ∈ jwks, jwk.Usable validator.lib → ¬jwk.Sole jwks := by
  refine ⟨?_, fun jwks => keeps_usable_iff⟩
  intro published response now server events hformed hstart halong
  have hkeeps : ∀ (before : JwksServer K) event after, Sound validator before →
      Meets validator before event → before.step validator event = some after →
        Sound validator after :=
    fun _ _ _ => sound_step
  have hsound := throughout_of_along hkeeps (sound_start hformed hstart) halong
  exact hsound.mono fun _ h => h.followed

/-! ## Two rotations -/

def namedLibrary : JsonWebToken String where
  decodeHeader token := .ok { kid := some token, alg := .rs256 }
  fromJwk jwk := .ok jwk.material
  decode token key validation _ :=
    if key = token ∧ .rs256 ∈ validation.algorithms then .ok {} else .error (.other "InvalidSignature")

def namedKey (name : String) : Jwk where
  keyId := some name
  algorithm := .rsa
  material := name

def sharedSecret : Jwk where
  keyId := some "secret"
  keyAlgorithm := some .hs256
  algorithm := .octetKey
  material := "secret"

def namedValidator : JwksValidator String where
  lib := namedLibrary
  validationTemplate := { algorithms := [] }

def oldServer : JwksServer String where
  clock := 0
  published := [namedKey "old"]
  cache := { keys := singleKey (namedKey "old") ⟨"old", .rs256⟩, ttl := 300 * 1000000000 }
  attempts := [⟨0, some [namedKey "old"]⟩]

def rotation (now : Instant) : List Event :=
  [.publish [namedKey "new"], .validate "new" now { response := .served none }]

/-- A minute after the last fetch, the old key answers for the new one, and the token is refused; and
a key that cannot be used makes the other keys of its set unavailable. -/
theorem rotation_missed :
    (∃ final,
      run (JwksServer.step namedValidator) oldServer (rotation (60 * 1000000000)) =
          some final ∧
        start namedValidator [namedKey "old"] (.served none) 0 = some oldServer ∧
          ¬Followed namedValidator final) ∧
      ¬KeepsUsable namedLibrary [namedKey "new", sharedSecret] := by
  constructor
  · refine ⟨_, rfl, rfl, fun h => ?_⟩
    have hgenuine : Genuine namedValidator "new" { kid := some "new", alg := .rs256 }
        (60 * 1000000000) (namedKey "new") :=
      ⟨"new", {}, rfl, rfl⟩
    obtain ⟨attempt, hmem, -, hwithin, -⟩ := h _ List.mem_cons_self (namedKey "new")
      List.mem_cons_self hgenuine (.inl ⟨rfl, nofun⟩) ⟨_, rfl⟩
    obtain rfl := List.mem_singleton.1 hmem
    exact absurd hwithin (by decide)
  · intro h
    have hsole : (namedKey "new").Sole [namedKey "new", sharedSecret] := by
      intro other hother hkid
      obtain rfl | hother := List.mem_cons.1 hother
      · rfl
      · rw [List.mem_singleton.1 hother] at hkid
        exact absurd hkid (by decide)
    obtain ⟨keys, key, hparsed, -⟩ := h (namedKey "new") List.mem_cons_self ⟨_, rfl⟩ hsole
    cases hparsed

theorem rotation_followed_late :
    Throughout (JwksServer.step namedValidator) (Followed namedValidator) oldServer
      (rotation (400 * 1000000000)) := by
  have hformed : ∀ name, WellFormedKeys namedLibrary [namedKey name] := by
    intro name
    refine ⟨fun jwk hmem => ?_, fun jwk hmem _ other hother _ => ?_⟩
    · rw [List.mem_singleton.1 hmem]
      exact ⟨_, rfl⟩
    · rw [List.mem_singleton.1 hmem, List.mem_singleton.1 hother]
  refine (rotation_followed namedValidator).1 [namedKey "old"] (.served none) 0 oldServer
    (rotation (400 * 1000000000)) (hformed "old") rfl ⟨trivial, ⟨?_, trivial⟩⟩
  intro header hheader
  cases hheader
  refine ⟨fun _ jwks hreturned => ?_, fun jwk hmem _ _ => ⟨?_, ?_, ?_⟩⟩
  · cases hreturned
    exact hformed "new"
  · obtain rfl := List.mem_singleton.1 hmem
    intro key hkey
    cases hkey
    rfl
  · intro _ key hfresh
    cases hfresh
  · intro hrecent
    cases hrecent

end JwksServer

end TowerMcp
