import TowerMcp.Client.Discovery

/-!
# Where the two discoveries agree

The two copies request other URLs for a path with a slash at its end, and part on an issuer whose
first document names another one: the grant gives up, the flow goes on. `discovery_agrees_iff` says
when they agree.
-/

namespace TowerMcp

open Fallible

namespace Discovery

/-! ## What is asked -/

/-- The two discoveries agree: they request the same URLs in the same order, and both find the same
resource, metadata and authorization servers, or both fail. -/
def Agree (grant : Requests × Except OAuthClientError OAuthAuthorizationDiscovery)
    (flow : Requests × Except OAuthClientError FlowDiscovery) : Prop :=
  grant.1 = flow.1 ∧
    match grant.2, flow.2 with
    | .ok first, .ok second =>
      first.resource = second.resource ∧
        first.protectedResourceMetadata = second.protectedResource ∧
        first.authorizationServers = second.authorizationServers
    | .error _, .error _ => True
    | _, _ => False

def EndsInSlash (path : String) : Prop :=
  path ≠ "/" ∧ path.toList.getLast? = some '/'

def Names (fetch : String → Option OAuthAuthorizationServerMetadata) (issuer : String) :
    List String → Prop
  | [] => False
  | url :: rest =>
    match fetch url with
    | some metadata => metadata.issuer = issuer
    | none => Names fetch issuer rest

/-- The first document that some candidates answer with names the issuer, or is that of the last
one. -/
def Settles (fetch : String → Option OAuthAuthorizationServerMetadata) (issuer : String) :
    List String → Prop
  | [] => True
  | url :: rest =>
    match fetch url with
    | some metadata => metadata.issuer = issuer ∨ rest = []
    | none => Settles fetch issuer rest

def document {α : Type} (web : Web) (read : String → Except String α) (url : String) : Option α :=
  match web.answer url with
  | .error _ => none
  | .ok response => if response.status < 300 then (read response.body).toOption else none

/-- What is asked of an issuer: its path does not end in a slash; and its first document names it,
or is that of the last candidate where the two discoveries have the same candidates. -/
def IssuerMeets (web : Web) (issuer : String) : Prop :=
  ∀ parsed, web.parseUrl issuer = .ok parsed → ¬EndsInSlash parsed.path ∧
    ∀ urls, AuthCode.authorizationServerMetadataUrls web issuer = .ok urls →
      Names (document web web.readAuthorizationServer) issuer urls ∨
        Settles (document web web.readAuthorizationServer) issuer urls ∧
          Flow.authorizationServerMetadataUrls web issuer = .ok urls

def accepted (web : Web) (resourceUrl url : String) : Option OAuthProtectedResourceMetadata :=
  (document web web.readProtectedResource url).filter fun metadata =>
    (validateResourceIdentifier web resourceUrl metadata.resource).toOption.isSome

/-- What is asked of a resource: its path does not end in a slash, unless the metadata that the
challenge points to is accepted. -/
def ResourceMeets (web : Web) (resourceUrl : String) (challenge : Option OAuthBearerChallenge) :
    Prop :=
  ((challenge.bind fun challenge => challenge.resourceMetadata).bind
      (accepted web resourceUrl)).isSome = true ∨
    ∀ parsed, web.parseUrl resourceUrl = .ok parsed → ¬EndsInSlash parsed.path

def protectedResource (web : Web) (resourceUrl : String)
    (challenge : Option OAuthBearerChallenge) : Option OAuthProtectedResourceMetadata :=
  ((challenge.bind fun challenge => challenge.resourceMetadata).toList ++
    (Flow.protectedResourceMetadataUrls web resourceUrl).toOption.getD []).findSome?
      (accepted web resourceUrl)

def probed (web : Web) (resourceUrl : String) :
    Option OAuthBearerChallenge → Option (Option OAuthBearerChallenge)
  | some challenge => some (some challenge)
  | none => ((web.answer resourceUrl).toOption).map challengeOf

def Meets (web : Web) (resourceUrl : String) (challenge : Option OAuthBearerChallenge) : Prop :=
  ∀ known, probed web resourceUrl challenge = some known →
    ResourceMeets web resourceUrl known ∧
      ∀ metadata, protectedResource web resourceUrl known = some metadata →
        ∀ issuer ∈ metadata.authorizationServers, IssuerMeets web issuer

/-! ## Lists of URLs -/

variable {web : Web}

theorem trim_slashes_eq_iff (text : String) :
    trimSlashes text = text ↔ text.toList.getLast? ≠ some '/' := by
  unfold trimSlashes
  rw [← String.toList_inj, String.toList_ofList]
  unfold trimEndMatches
  rw [List.rdropWhile_eq_self_iff]
  by_cases hnil : text.toList = []
  · simp [hnil]
  · rw [List.getLast?_eq_some_getLast hnil]
    simp [hnil]

theorem trim_slashes_root : trimSlashes "/" = "" := by
  decide

theorem path_cases (path : String) :
    ((path = "" ∨ path = "/") ∧ trimSlashes path = "" ∧ ¬EndsInSlash path) ∨
      ((path ≠ "" ∧ path ≠ "/") ∧ trimSlashes path ≠ path ∧ EndsInSlash path) ∨
        ((path ≠ "" ∧ path ≠ "/") ∧ trimSlashes path = path ∧ ¬EndsInSlash path) := by
  by_cases hempty : path = ""
  · subst hempty
    refine .inl ⟨.inl rfl, by decide, fun hslash => ?_⟩
    have hlast := hslash.2
    simp at hlast
  by_cases hroot : path = "/"
  · exact .inl ⟨.inr hroot, hroot ▸ trim_slashes_root, fun hslash => hslash.1 hroot⟩
  by_cases hlast : path.toList.getLast? = some '/'
  · refine .inr (.inl ⟨⟨hempty, hroot⟩, fun hsame => ?_, hroot, hlast⟩)
    exact (trim_slashes_eq_iff path).1 hsame hlast
  · exact .inr (.inr ⟨⟨hempty, hroot⟩, (trim_slashes_eq_iff path).2 hlast,
      fun hslash => hlast hslash.2⟩)

theorem dedup_pair {first second : String} (h : first ≠ second) :
    dedup [first, second] = [first, second] := by
  simp [dedup, h]

theorem push_unique_pair {first second : String} (h : first ≠ second) :
    pushUnique (pushUnique [] first) second = [first, second] := by
  simp [pushUnique, h.symm]

theorem resource_urls_cases {resourceUrl : String} {parsed : Url}
    (hparsed : web.parseUrl resourceUrl = .ok parsed) :
    ∃ grant flow, AuthCode.protectedResourceMetadataUrls web resourceUrl = .ok grant ∧
      Flow.protectedResourceMetadataUrls web resourceUrl = .ok flow ∧
      (EndsInSlash parsed.path → grant.head? ≠ flow.head?) ∧
      (¬EndsInSlash parsed.path → grant = flow) := by
  unfold AuthCode.protectedResourceMetadataUrls Flow.protectedResourceMetadataUrls
  rw [hparsed]
  refine ⟨_, _, rfl, rfl, ?_⟩
  set root := parsed.origin ++ "/.well-known/oauth-protected-resource"
  have hbelow : ∀ {path}, path ≠ "" → root ++ path ≠ root := by
    intro path hpath heq
    exact hpath ((String.append_right_inj root).1 (heq.trans String.append_empty.symm))
  obtain ⟨hroot, htrim, hplain⟩ | ⟨hpath, htrim, hslash⟩ | ⟨hpath, htrim, hplain⟩ :=
    path_cases parsed.path
  · have hnot : ¬(parsed.path ≠ "" ∧ parsed.path ≠ "/") :=
      fun hpath => hroot.elim hpath.1 hpath.2
    refine ⟨fun hslash => absurd hslash hplain, fun _ => ?_⟩
    rw [htrim, if_neg (not_not.2 rfl), if_neg hnot]
    rfl
  · refine ⟨fun _ => ?_, fun hplain => absurd hslash hplain⟩
    rw [if_pos hpath]
    simp only [List.cons_append, List.nil_append]
    rw [dedup_pair (hbelow hpath.1)]
    split
    next hne =>
      rw [push_unique_pair (hbelow hne)]
      simpa using htrim
    next heq =>
      have hdiffers := hbelow hpath.1
      simpa [pushUnique] using hdiffers.symm
  · refine ⟨fun hslash => absurd hslash hplain, fun _ => ?_⟩
    rw [htrim, if_pos hpath.1, if_pos hpath]
    simp only [List.cons_append, List.nil_append]
    rw [dedup_pair (hbelow hpath.1), push_unique_pair (hbelow hpath.1)]

theorem metadata_url_ne (origin path : String) :
    origin ++ "/.well-known/oauth-authorization-server" ++ path ≠
      origin ++ "/.well-known/openid-configuration" ++ path := by
  intro heq
  have hsame := (String.append_right_inj origin).1 ((String.append_left_inj path).1 heq)
  exact absurd hsame (by decide)

theorem issuer_urls_cases {issuer : String} {parsed : Url}
    (hparsed : web.parseUrl issuer = .ok parsed) :
    ∃ grant flow, AuthCode.authorizationServerMetadataUrls web issuer = .ok grant ∧
      Flow.authorizationServerMetadataUrls web issuer = .ok flow ∧
      (EndsInSlash parsed.path → grant.head? ≠ flow.head?) ∧
      (¬EndsInSlash parsed.path → ∃ extra, flow = grant ++ extra) := by
  unfold AuthCode.authorizationServerMetadataUrls Flow.authorizationServerMetadataUrls
  rw [hparsed]
  dsimp only
  set server := parsed.origin ++ "/.well-known/oauth-authorization-server"
  set provider := parsed.origin ++ "/.well-known/openid-configuration"
  set below := trimSlashes issuer ++ "/.well-known/openid-configuration"
  have hpair : ∀ path, server ++ path ≠ provider ++ path := metadata_url_ne parsed.origin
  have hroots : server ≠ provider := by
    have hempty := hpair ""
    simpa using hempty
  obtain ⟨hroot, htrim, hplain⟩ | ⟨hpath, htrim, hslash⟩ | ⟨hpath, htrim, hplain⟩ :=
    path_cases parsed.path
  · have hnot : ¬(parsed.path ≠ "" ∧ parsed.path ≠ "/") :=
      fun hpath => hroot.elim hpath.1 hpath.2
    rw [htrim, if_neg (not_not.2 rfl), if_neg hnot]
    refine ⟨_, _, rfl, rfl, fun hslash => absurd hslash hplain, fun _ => ⟨[], ?_⟩⟩
    rw [dedup_pair hroots, push_unique_pair hroots, List.append_nil]
  · rw [if_pos hpath]
    have hflow : (dedup [server ++ parsed.path, provider ++ parsed.path, below]).head? =
        some (server ++ parsed.path) := by
      simp [dedup, hpair]
    split
    next hne =>
      refine ⟨_, _, rfl, rfl, fun _ => ?_, fun hplain => absurd hslash hplain⟩
      rw [hflow, push_unique_pair (hpair _)]
      have hhead : (pushUnique [server ++ trimSlashes parsed.path,
          provider ++ trimSlashes parsed.path] below).head? =
            some (server ++ trimSlashes parsed.path) := by
        unfold pushUnique
        split <;> rfl
      rw [hhead]
      exact fun heq => htrim ((String.append_right_inj server).1 (Option.some.inj heq))
    next =>
      refine ⟨_, _, rfl, rfl, fun _ => ?_, fun hplain => absurd hslash hplain⟩
      rw [hflow, push_unique_pair hroots]
      intro heq
      have hempty : server ++ "" = server ++ parsed.path :=
        String.append_empty.trans (Option.some.inj heq)
      exact hpath.1 ((String.append_right_inj server).1 hempty).symm
  · rw [htrim, if_pos hpath.1, if_pos hpath, push_unique_pair (hpair _)]
    refine ⟨_, _, rfl, rfl, fun hslash => absurd hslash hplain, fun _ => ?_⟩
    have hne := hpair parsed.path
    by_cases hsecond : provider ++ parsed.path = below
    · exact ⟨[], by simp [dedup, pushUnique, hne, ← hsecond]⟩
    · by_cases hfirst : server ++ parsed.path = below
      · exact ⟨[below], by simp [dedup, pushUnique, hne, hroots.symm, ← hfirst]⟩
      · refine ⟨[], ?_⟩
        simp [dedup, pushUnique, hne, hsecond, Ne.symm hsecond, Ne.symm hfirst]

/-! ## Documents -/

theorem grant_fetch_json {α : Type} (read : String → Except String α) (url : String) :
    (AuthCode.fetchJson web read url).toOption = document web read url := by
  unfold AuthCode.fetchJson document
  cases web.answer url with
  | error error => rfl
  | ok response =>
    dsimp only
    have hfinal := response.final
    by_cases hsuccess : response.status < 300
    · have hredirect : ¬(300 ≤ response.status ∧ response.status < 400) := by omega
      have hfailure : ¬(400 ≤ response.status ∧ response.status < 600) := by omega
      rw [if_neg hredirect, if_neg hfailure, if_pos hsuccess]
      cases read response.body <;> rfl
    · rw [if_neg hsuccess]
      by_cases hredirect : 300 ≤ response.status ∧ response.status < 400
      · rw [if_pos hredirect]
        rfl
      · have hfailure : 400 ≤ response.status ∧ response.status < 600 := by omega
        rw [if_neg hredirect, if_pos hfailure]
        rfl

theorem flow_fetch_json {α : Type} (read : String → Except String α) (url : String) :
    (Flow.fetchJson web read url).toOption = document web read url := by
  unfold Flow.fetchJson document
  cases web.answer url with
  | error error => rfl
  | ok response =>
    dsimp only
    have hfinal := response.final
    by_cases hsuccess : response.status < 300
    · rw [if_pos ⟨hfinal.1, hsuccess⟩, if_pos hsuccess]
      cases read response.body <;> rfl
    · rw [if_neg fun h => hsuccess h.2, if_neg hsuccess]
      rfl

theorem matching_protected_resource {resourceUrl : String}
    (fetched : Except OAuthClientError OAuthProtectedResourceMetadata) :
    (matchingProtectedResource web resourceUrl fetched).toOption =
      fetched.toOption.filter fun metadata =>
        (validateResourceIdentifier web resourceUrl metadata.resource).toOption.isSome := by
  unfold matchingProtectedResource
  cases fetched with
  | error error => rfl
  | ok metadata =>
    show _ = Option.filter _ (some metadata)
    rw [Option.filter_some]
    dsimp only
    cases validateResourceIdentifier web resourceUrl metadata.resource with
    | error error => rfl
    | ok _ => rfl

/-! ## Candidates of a resource -/

section Resource

variable {grant flow : String → Except String OAuthProtectedResourceMetadata}
  (hsame : ∀ url, (grant url).toOption = (flow url).toOption)

include hsame

theorem first_accepted_congr (urls : List String) :
    (firstAccepted grant urls).1 = (firstAccepted flow urls).1 ∧
      (firstAccepted grant urls).2.2 = (firstAccepted flow urls).2.2 := by
  induction urls with
  | nil => exact ⟨rfl, rfl⟩
  | cons url rest ih =>
    have hurl := hsame url
    unfold firstAccepted
    cases hgrant : grant url with
    | ok metadata =>
      rw [hgrant] at hurl
      rw [to_option_eq_some.1 hurl.symm]
      exact ⟨rfl, rfl⟩
    | error reason =>
      rw [hgrant] at hurl
      cases hflow : flow url with
      | ok metadata =>
        rw [hflow] at hurl
        cases hurl
      | error other => exact ⟨congrArg (List.cons url) ih.1, ih.2⟩

end Resource

theorem head_first_accepted (fetch : String → Except String OAuthProtectedResourceMetadata)
    (urls : List String) : (firstAccepted fetch urls).1.head? = urls.head? := by
  cases urls with
  | nil => rfl
  | cons url rest =>
    unfold firstAccepted
    split <;> rfl

theorem accepted_first_accepted (fetch : String → Except String OAuthProtectedResourceMetadata)
    (urls : List String) : (firstAccepted fetch urls).2.2.map (·.2) =
      urls.findSome? fun url => (fetch url).toOption := by
  induction urls with
  | nil => rfl
  | cons url rest ih =>
    unfold firstAccepted
    rw [List.findSome?_cons]
    cases fetch url with
    | ok metadata => rfl
    | error reason => exact ih

theorem grant_accepts (resourceUrl url : String) :
    (AuthCode.fetchMatchingProtectedResource web resourceUrl url).toOption =
      accepted web resourceUrl url := by
  unfold AuthCode.fetchMatchingProtectedResource accepted
  rw [matching_protected_resource, grant_fetch_json]

theorem flow_accepts (resourceUrl url : String) :
    (Flow.fetchMatchingProtectedResource web resourceUrl url).toOption =
      accepted web resourceUrl url := by
  unfold Flow.fetchMatchingProtectedResource accepted
  rw [matching_protected_resource, flow_fetch_json]

theorem from_well_known_ok (fetch : String → Except String OAuthProtectedResourceMetadata)
    (urls : List String) (resourceUrl : String) (rejected : List (String × String)) :
    (fromWellKnown fetch (.ok urls) resourceUrl rejected).1 =
        rejected.map (·.1) ++ (firstAccepted fetch urls).1 ∧
      (fromWellKnown fetch (.ok urls) resourceUrl rejected).2.toOption =
        (firstAccepted fetch urls).2.2 := by
  unfold fromWellKnown
  dsimp only
  cases (firstAccepted fetch urls).2.2 with
  | none => exact ⟨rfl, rfl⟩
  | some accepted => exact ⟨rfl, rfl⟩

section Resource

variable {grant flow : String → Except String OAuthProtectedResourceMetadata}
  {resourceUrl : String} {before after : List (String × String)}

theorem from_well_known_congr (hsame : ∀ url, (grant url).toOption = (flow url).toOption)
    (hbefore : before.map (·.1) = after.map (·.1)) (urls : Except OAuthClientError (List String)) :
    (fromWellKnown grant urls resourceUrl before).1 =
        (fromWellKnown flow urls resourceUrl after).1 ∧
      (fromWellKnown grant urls resourceUrl before).2.toOption =
        (fromWellKnown flow urls resourceUrl after).2.toOption := by
  cases urls with
  | error error => exact ⟨hbefore, rfl⟩
  | ok urls =>
    obtain ⟨hgrant, hfound⟩ := from_well_known_ok grant urls resourceUrl before
    obtain ⟨hflow, hother⟩ := from_well_known_ok flow urls resourceUrl after
    obtain ⟨hrequests, haccepted⟩ := first_accepted_congr hsame urls
    rw [hgrant, hfound, hflow, hother, hbefore, hrequests, haccepted]
    exact ⟨rfl, rfl⟩

theorem from_well_known_ne (hbefore : before.map (·.1) = after.map (·.1))
    {first second : List String} (hhead : first.head? ≠ second.head?) :
    (fromWellKnown grant (.ok first) resourceUrl before).1 ≠
      (fromWellKnown flow (.ok second) resourceUrl after).1 := by
  rw [(from_well_known_ok grant first resourceUrl before).1,
    (from_well_known_ok flow second resourceUrl after).1, hbefore]
  intro heq
  have htried := List.append_cancel_left heq
  rw [← head_first_accepted grant first, ← head_first_accepted flow second, htried] at hhead
  exact hhead rfl

end Resource

theorem resource_iff (web : Web) (resourceUrl : String) (challenge : Option OAuthBearerChallenge) :
    ((AuthCode.discoverProtectedResourceMetadata web resourceUrl challenge).1 =
        (Flow.discoverProtectedResourceMetadata web resourceUrl challenge).1 ↔
      ResourceMeets web resourceUrl challenge) ∧
    (ResourceMeets web resourceUrl challenge →
      (AuthCode.discoverProtectedResourceMetadata web resourceUrl challenge).2.toOption =
        (Flow.discoverProtectedResourceMetadata web resourceUrl challenge).2.toOption) := by
  have hsame : ∀ url, (AuthCode.fetchMatchingProtectedResource web resourceUrl url).toOption =
      (Flow.fetchMatchingProtectedResource web resourceUrl url).toOption :=
    fun url => (grant_accepts resourceUrl url).trans (flow_accepts resourceUrl url).symm
  have hcongr {before after : List (String × String)} (hbefore : before.map (·.1) = after.map (·.1))
      (urls : Except OAuthClientError (List String)) :
      (fromWellKnown (AuthCode.fetchMatchingProtectedResource web resourceUrl) urls resourceUrl
          before).1 =
        (fromWellKnown (Flow.fetchMatchingProtectedResource web resourceUrl) urls resourceUrl
          after).1 ∧
      (fromWellKnown (AuthCode.fetchMatchingProtectedResource web resourceUrl) urls resourceUrl
          before).2.toOption =
        (fromWellKnown (Flow.fetchMatchingProtectedResource web resourceUrl) urls resourceUrl
          after).2.toOption :=
    from_well_known_congr hsame hbefore urls
  -- What the well-known URLs lead to, once the candidates before them are rejected.
  have hwell : ∀ before after : List (String × String), before.map (·.1) = after.map (·.1) →
      ((fromWellKnown (AuthCode.fetchMatchingProtectedResource web resourceUrl)
          (AuthCode.protectedResourceMetadataUrls web resourceUrl) resourceUrl before).1 =
        (fromWellKnown (Flow.fetchMatchingProtectedResource web resourceUrl)
          (Flow.protectedResourceMetadataUrls web resourceUrl) resourceUrl after).1 ↔
        ∀ parsed, web.parseUrl resourceUrl = .ok parsed → ¬EndsInSlash parsed.path) ∧
      ((∀ parsed, web.parseUrl resourceUrl = .ok parsed → ¬EndsInSlash parsed.path) →
        (fromWellKnown (AuthCode.fetchMatchingProtectedResource web resourceUrl)
          (AuthCode.protectedResourceMetadataUrls web resourceUrl) resourceUrl before).2.toOption =
        (fromWellKnown (Flow.fetchMatchingProtectedResource web resourceUrl)
          (Flow.protectedResourceMetadataUrls web resourceUrl) resourceUrl after).2.toOption) := by
    intro before after hbefore
    cases hparsed : web.parseUrl resourceUrl with
    | error error =>
      have hgrant : AuthCode.protectedResourceMetadataUrls web resourceUrl =
          Flow.protectedResourceMetadataUrls web resourceUrl := by
        unfold AuthCode.protectedResourceMetadataUrls Flow.protectedResourceMetadataUrls
        rw [hparsed]
      rw [hgrant]
      have hboth := hcongr hbefore (Flow.protectedResourceMetadataUrls web resourceUrl)
      exact ⟨⟨fun _ => nofun, fun _ => hboth.1⟩, fun _ => hboth.2⟩
    | ok parsed =>
      obtain ⟨first, second, hfirst, hsecond, hslash, hplain⟩ := resource_urls_cases hparsed
      rw [hfirst, hsecond]
      by_cases hends : EndsInSlash parsed.path
      · refine ⟨⟨fun heq => absurd heq (from_well_known_ne hbefore (hslash hends)), ?_⟩, ?_⟩
        · exact fun hmeets => absurd hends (hmeets parsed rfl)
        · exact fun hmeets => absurd hends (hmeets parsed rfl)
      · obtain rfl := hplain hends
        have hboth := hcongr hbefore (.ok first)
        refine ⟨⟨fun _ other hother => ?_, fun _ => hboth.1⟩, fun _ => hboth.2⟩
        cases hother
        exact hends
  unfold AuthCode.discoverProtectedResourceMetadata Flow.discoverProtectedResourceMetadata
    discoverFrom ResourceMeets
  cases challenge.bind fun challenge => challenge.resourceMetadata with
  | none =>
    obtain ⟨hrequests, hfound⟩ := hwell [] [] rfl
    refine ⟨hrequests.trans ⟨.inr, fun h => h.resolve_left nofun⟩, fun h => ?_⟩
    exact hfound (h.resolve_left nofun)
  | some url =>
    have hurl := hsame url
    have haccepted : (AuthCode.fetchMatchingProtectedResource web resourceUrl url).toOption =
        accepted web resourceUrl url := grant_accepts resourceUrl url
    dsimp only [Option.bind_some]
    rw [← haccepted]
    cases hgrant : AuthCode.fetchMatchingProtectedResource web resourceUrl url with
    | ok metadata =>
      rw [hgrant] at hurl
      rw [to_option_eq_some.1 hurl.symm]
      exact ⟨⟨fun _ => .inl rfl, fun _ => rfl⟩, fun _ => rfl⟩
    | error reason =>
      rw [hgrant] at hurl
      cases hflow : Flow.fetchMatchingProtectedResource web resourceUrl url with
      | ok metadata =>
        rw [hflow] at hurl
        cases hurl
      | error other =>
        obtain ⟨hrequests, hfound⟩ := hwell [(url, reason)] [(url, other)] rfl
        refine ⟨hrequests.trans ⟨.inr, fun h => h.resolve_left nofun⟩, fun h => ?_⟩
        exact hfound (h.resolve_left nofun)

/-! ## Candidates of an issuer -/

section Issuer

variable {fetch : String → Except OAuthClientError OAuthAuthorizationServerMetadata}

theorem head_grant_candidates (issuer : String) (lastError : Option OAuthClientError)
    (urls : List String) :
    (AuthCode.tryCandidates fetch issuer lastError urls).1.head? = urls.head? := by
  cases urls with
  | nil => rfl
  | cons url rest =>
    unfold AuthCode.tryCandidates
    split <;> rfl

theorem head_flow_candidates (issuer : String) (lastError : Option OAuthClientError)
    (urls : List String) :
    (Flow.tryCandidates fetch issuer lastError urls).1.head? = urls.head? := by
  cases urls with
  | nil => rfl
  | cons url rest =>
    unfold Flow.tryCandidates
    split
    · split <;> rfl
    · rfl

theorem flow_candidates_nil_iff (issuer : String) (lastError : Option OAuthClientError)
    (urls : List String) :
    (Flow.tryCandidates fetch issuer lastError urls).1 = [] ↔ urls = [] := by
  rw [← List.head?_eq_none_iff, head_flow_candidates, List.head?_eq_none_iff]

variable {grant flow : String → Except OAuthClientError OAuthAuthorizationServerMetadata}
  {read : String → Option OAuthAuthorizationServerMetadata}

theorem candidates_iff (hgrant : ∀ url, (grant url).toOption = read url)
    (hflow : ∀ url, (flow url).toOption = read url) (issuer : String) (extra urls : List String)
    (before after : Option OAuthClientError) :
    ((AuthCode.tryCandidates grant issuer before urls).1 =
        (Flow.tryCandidates flow issuer after (urls ++ extra)).1 ↔
      Names read issuer urls ∨ Settles read issuer urls ∧ extra = []) ∧
    (Names read issuer urls ∨ Settles read issuer urls ∧ extra = [] →
      (AuthCode.tryCandidates grant issuer before urls).2.toOption =
        (Flow.tryCandidates flow issuer after (urls ++ extra)).2.toOption) := by
  induction urls generalizing before after with
  | nil =>
    refine ⟨?_, ?_⟩
    · show [] = (Flow.tryCandidates flow issuer after extra).1 ↔ False ∨ True ∧ extra = []
      rw [eq_comm, flow_candidates_nil_iff]
      simp
    · rintro (hfalse | ⟨-, rfl⟩)
      · exact hfalse.elim
      · rfl
  | cons url rest ih =>
    have hfirst := hgrant url
    have hsecond := hflow url
    unfold AuthCode.tryCandidates Names Settles
    rw [List.cons_append]
    unfold Flow.tryCandidates
    cases hread : read url with
    | some metadata =>
      rw [hread] at hfirst hsecond
      rw [to_option_eq_some.1 hfirst, to_option_eq_some.1 hsecond]
      dsimp only
      unfold AuthCode.validateMetadataIssuer
      by_cases hnames : metadata.issuer = issuer
      · simp [hnames, Except.map, Except.toOption]
      · rw [if_neg hnames, if_neg hnames]
        simp only [hnames, List.cons.injEq, true_and, false_or]
        rw [eq_comm, flow_candidates_nil_iff, List.append_eq_nil_iff]
        refine ⟨Iff.rfl, fun hlast => ?_⟩
        rw [hlast.1, hlast.2]
        rfl
    | none =>
      rw [hread] at hfirst hsecond
      cases hgranted : grant url with
      | ok metadata =>
        rw [hgranted] at hfirst
        cases hfirst
      | error first =>
        cases hflowed : flow url with
        | ok metadata =>
          rw [hflowed] at hsecond
          cases hsecond
        | error second =>
          obtain ⟨hrequests, hfound⟩ := ih (some first) (some second)
          dsimp only
          rw [List.cons_inj_right]
          exact ⟨hrequests, hfound⟩

end Issuer

theorem issuer_iff (issuer : String) :
    ((AuthCode.discoverAuthorizationServerFromIssuer web issuer).1 =
        (Flow.discoverAuthorizationServer web issuer).1 ↔ IssuerMeets web issuer) ∧
    (IssuerMeets web issuer →
      (AuthCode.discoverAuthorizationServerFromIssuer web issuer).2.toOption =
        (Flow.discoverAuthorizationServer web issuer).2.toOption) := by
  unfold AuthCode.discoverAuthorizationServerFromIssuer Flow.discoverAuthorizationServer IssuerMeets
  cases hparsed : web.parseUrl issuer with
  | error error =>
    unfold AuthCode.authorizationServerMetadataUrls Flow.authorizationServerMetadataUrls
    rw [hparsed]
    exact ⟨⟨fun _ => nofun, fun _ => rfl⟩, fun _ => rfl⟩
  | ok parsed =>
    obtain ⟨first, second, hfirst, hsecond, hslash, hplain⟩ := issuer_urls_cases hparsed
    rw [hfirst, hsecond]
    simp only [Except.ok.injEq, forall_eq']
    by_cases hends : EndsInSlash parsed.path
    · refine ⟨⟨fun heq => ?_, fun hmeets => absurd hends hmeets.1⟩,
        fun hmeets => absurd hends hmeets.1⟩
      have hhead := hslash hends
      rw [← head_grant_candidates issuer none first, heq, head_flow_candidates] at hhead
      exact absurd rfl hhead
    · obtain ⟨extra, rfl⟩ := hplain hends
      obtain ⟨hrequests, hfound⟩ := candidates_iff
        (fun url => grant_fetch_json web.readAuthorizationServer url)
        (fun url => flow_fetch_json web.readAuthorizationServer url) issuer extra first none none
      rw [hrequests, List.append_right_eq_self]
      exact ⟨(and_iff_right hends).symm, fun hmeets => hfound hmeets.2⟩

theorem found_discover_from (fetch : String → Except String OAuthProtectedResourceMetadata)
    (wellKnown : Except OAuthClientError (List String)) (resourceUrl : String)
    (challenge : Option OAuthBearerChallenge) :
    (discoverFrom fetch wellKnown resourceUrl challenge).2.toOption.map (·.2) =
      ((challenge.bind fun challenge => challenge.resourceMetadata).toList ++
        wellKnown.toOption.getD []).findSome? fun url => (fetch url).toOption := by
  have hwell : ∀ rejected, (fromWellKnown fetch wellKnown resourceUrl rejected).2.toOption.map
      (·.2) = (wellKnown.toOption.getD []).findSome? fun url => (fetch url).toOption := by
    intro rejected
    cases wellKnown with
    | error error => rfl
    | ok urls =>
      rw [(from_well_known_ok fetch urls resourceUrl rejected).2, accepted_first_accepted]
      rfl
  unfold discoverFrom
  cases challenge.bind fun challenge => challenge.resourceMetadata with
  | none => exact hwell []
  | some url =>
    rw [Option.toList_some, List.singleton_append, List.findSome?_cons]
    dsimp only
    cases fetch url with
    | ok metadata => rfl
    | error reason => exact hwell _

theorem found_flow (resourceUrl : String) (challenge : Option OAuthBearerChallenge) :
    (Flow.discoverProtectedResourceMetadata web resourceUrl challenge).2.toOption.map (·.2) =
      protectedResource web resourceUrl challenge := by
  have haccepts : (fun url => (Flow.fetchMatchingProtectedResource web resourceUrl url).toOption) =
      accepted web resourceUrl := funext fun url => flow_accepts resourceUrl url
  unfold Flow.discoverProtectedResourceMetadata protectedResource
  rw [found_discover_from, haccepts]

/-! ## Discoveries -/

theorem agree_errors {grant flow : Requests} (first second : OAuthClientError) :
    Agree (grant, .error first) (flow, .error second) ↔ grant = flow :=
  and_iff_left trivial

theorem issuers_iff (web : Web) (issuers : List String) :
    ((discoverIssuers (AuthCode.discoverAuthorizationServerFromIssuer web) issuers).requests =
        (discoverIssuers (Flow.discoverAuthorizationServer web) issuers).requests ↔
      ∀ issuer ∈ issuers, IssuerMeets web issuer) ∧
    ((∀ issuer ∈ issuers, IssuerMeets web issuer) →
      (discoverIssuers (AuthCode.discoverAuthorizationServerFromIssuer web) issuers).servers =
        (discoverIssuers (Flow.discoverAuthorizationServer web) issuers).servers) := by
  refine ⟨?_, fun hmeets => ?_⟩
  · show issuers.map _ = issuers.map _ ↔ _
    rw [List.map_inj_left]
    exact forall₂_congr fun issuer _ => (issuer_iff issuer).1
  · show issuers.filterMap _ = issuers.filterMap _
    exact List.filterMap_congr fun issuer hmem => (issuer_iff issuer).2 (hmeets issuer hmem)

theorem requested_grant (probe : List String) (resourceUrl : String)
    (challenge : Option OAuthBearerChallenge) :
    (AuthCode.discoverWith web probe resourceUrl challenge).1.protectedResource =
      (AuthCode.discoverProtectedResourceMetadata web resourceUrl challenge).1 := by
  unfold AuthCode.discoverWith
  dsimp only
  split
  · rfl
  · split
    · rfl
    · split <;> rfl

theorem requested_flow (probe : List String) (resourceUrl : String)
    (challenge : Option OAuthBearerChallenge) :
    (Flow.discoverWith web probe resourceUrl challenge).1.protectedResource =
      (Flow.discoverProtectedResourceMetadata web resourceUrl challenge).1 := by
  unfold Flow.discoverWith
  dsimp only
  split
  · rfl
  · split
    · rfl
    · split <;> rfl

theorem discover_with_iff (probe : List String) (resourceUrl : String)
    (challenge : Option OAuthBearerChallenge) :
    Agree (AuthCode.discoverWith web probe resourceUrl challenge)
        (Flow.discoverWith web probe resourceUrl challenge) ↔
      ResourceMeets web resourceUrl challenge ∧
        ∀ metadata, protectedResource web resourceUrl challenge = some metadata →
          ∀ issuer ∈ metadata.authorizationServers, IssuerMeets web issuer := by
  obtain ⟨hrequests, hfound⟩ := resource_iff web resourceUrl challenge
  by_cases hmeets : ResourceMeets web resourceUrl challenge
  · rw [and_iff_right hmeets, ← found_flow]
    replace hrequests := hrequests.2 hmeets
    replace hfound := hfound hmeets
    unfold AuthCode.discoverWith Flow.discoverWith
    dsimp only
    cases hflow : (Flow.discoverProtectedResourceMetadata web resourceUrl challenge).2 with
    | error second =>
      rw [hflow] at hfound
      cases hgrant : (AuthCode.discoverProtectedResourceMetadata web resourceUrl challenge).2 with
      | ok found =>
        rw [hgrant] at hfound
        cases hfound
      | error first =>
        refine ⟨fun _ => nofun, fun _ => (agree_errors _ _).2 ?_⟩
        rw [hrequests]
    | ok found =>
      obtain ⟨url, metadata⟩ := found
      rw [hflow] at hfound
      rw [to_option_eq_some.1 hfound]
      show _ ↔ ∀ other, some metadata = some other → _
      simp only [Option.some.injEq, forall_eq']
      by_cases hnone : metadata.authorizationServers = []
      · rw [if_pos hnone, if_pos hnone, agree_errors, hrequests, hnone]
        exact ⟨fun _ => List.forall_mem_nil _, fun _ => rfl⟩
      · rw [if_neg hnone, if_neg hnone]
        obtain ⟨hissuers, hservers⟩ := issuers_iff web metadata.authorizationServers
        refine ⟨fun hagree => ?_, fun hall => ?_⟩
        · have hsame := congrArg Requests.authorizationServers hagree.1
          simp only [apply_ite Prod.fst, ite_self] at hsame
          exact hissuers.1 hsame
        · rw [hissuers.2 hall, hservers hall, hrequests]
          by_cases hservers : (discoverIssuers (Flow.discoverAuthorizationServer web)
              metadata.authorizationServers).servers = []
          · rw [if_pos hservers, if_pos hservers, agree_errors]
          · rw [if_neg hservers, if_neg hservers]
            exact ⟨rfl, rfl, rfl, rfl⟩
  · refine ⟨fun hagree => absurd ?_ hmeets, fun h => absurd h.1 hmeets⟩
    have hsame := congrArg Requests.protectedResource hagree.1
    rw [requested_grant, requested_flow] at hsame
    exact hrequests.1 hsame

/-- The two discoveries agree exactly when the resource meets the condition, and each issuer that
its metadata names. -/
theorem discovery_agrees_iff (web : Web) (resourceUrl : String)
    (challenge : Option OAuthBearerChallenge) :
    Agree (AuthCode.discoverOauthAuthorization web resourceUrl challenge)
        (Flow.discoverWithHttp web resourceUrl challenge) ↔ Meets web resourceUrl challenge := by
  unfold AuthCode.discoverOauthAuthorization Flow.discoverWithHttp Meets probed
  cases challenge with
  | some known =>
    simp only [Option.some.injEq, forall_eq']
    exact discover_with_iff [] resourceUrl (some known)
  | none =>
    unfold AuthCode.probeOauthBearerChallenge
    cases web.answer resourceUrl with
    | error error => exact ⟨fun _ => nofun, fun _ => (agree_errors _ _).2 rfl⟩
    | ok response =>
      show _ ↔ ∀ known, some (challengeOf response) = some known → _
      simp only [Option.some.injEq, forall_eq']
      exact discover_with_iff [resourceUrl] resourceUrl (challengeOf response)

def mixedWeb : Web where
  parseUrl url :=
    if url = "https://auth.example.com" then
      .ok { scheme := "https", host := some "auth.example.com", port := some 443,
            origin := "https://auth.example.com", path := "/" }
    else
      .ok { scheme := "https", host := some "api.example.com", port := some 443,
            origin := "https://api.example.com", path := "/mcp" }
  answer url :=
    if url = "https://api.example.com/.well-known/oauth-protected-resource/mcp" then
      .ok { status := 200, final := by decide, body := "resource" }
    else if url = "https://auth.example.com/.well-known/oauth-authorization-server" then
      .ok { status := 200, final := by decide, body := "https://other.example.com" }
    else if url = "https://auth.example.com/.well-known/openid-configuration" then
      .ok { status := 200, final := by decide, body := "https://auth.example.com" }
    else .ok { status := 401, final := by decide }
  readProtectedResource body :=
    if body = "resource" then
      .ok { resource := "https://api.example.com/mcp",
            authorizationServers := ["https://auth.example.com"] }
    else .error "EOF while parsing a value"
  readAuthorizationServer body :=
    .ok { issuer := body, authorizationEndpoint := body ++ "/authorize",
          tokenEndpoint := body ++ "/token" }
  statusText status := toString status
  statusError status url :=
    "HTTP status client error (" ++ toString status ++ ") for url (" ++ url ++ ")"

/-- The grant gives up on an issuer whose first document names another one, where the flow goes on
to the document that names it. -/
theorem discoveries_differ :
    ¬∀ (web : Web) (resourceUrl : String) (challenge : Option OAuthBearerChallenge),
      Agree (AuthCode.discoverOauthAuthorization web resourceUrl challenge)
        (Flow.discoverWithHttp web resourceUrl challenge) := by
  intro hall
  have hrequests := (hall mixedWeb "https://api.example.com/mcp" none).1
  revert hrequests
  decide +kernel

end Discovery

end TowerMcp
