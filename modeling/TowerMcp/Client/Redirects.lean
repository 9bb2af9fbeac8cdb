import Mathlib.Data.List.Chain
import Mathlib.Data.List.TakeWhile
import Mathlib.Data.Nat.Notation
import Mathlib.Tactic.Common

/-!
# Redirects of a request

The redirect policy of the HTTP client decides each hop from the URL that the request was sent to
first and the one it is redirected to. `followed_eq` says which redirects of a chain are followed;
what the policy promises of the whole chain is derived from it.
-/

namespace TowerMcp.Redirects

structure Url where
  scheme : String
  hostStr : Option String
  port : Option ℕ := none
deriving DecidableEq

def knownDefaultPort : String → Option ℕ
  | "http" | "ws" => some 80
  | "https" | "wss" => some 443
  | "ftp" => some 21
  | _ => none

def Url.portOrKnownDefault (url : Url) : Option ℕ :=
  url.port.or (knownDefaultPort url.scheme)

def Url.SameOrigin (url other : Url) : Prop :=
  url.scheme = other.scheme ∧ url.hostStr = other.hostStr ∧
    url.portOrKnownDefault = other.portOrKnownDefault

instance (url other : Url) : Decidable (url.SameOrigin other) :=
  inferInstanceAs (Decidable (_ ∧ _ ∧ _))

structure Redirect where
  status : ℕ
  url : Url

/-- The most hops of a chain, `MAX_REDIRECT_HOPS`. -/
def maxRedirectHops : ℕ := 10

def redirectPreservesRequest (status : ℕ) : Bool := status == 307 || status == 308

def shouldFollowRedirect (original target : Url) (allowCrossOrigin : Bool) : Bool :=
  if original.scheme = "https" ∧ target.scheme ≠ "https" then false
  else if allowCrossOrigin then true
  else decide (original.SameOrigin target)

inductive Action where
  | follow
  | stop
  | error (message : String)
deriving DecidableEq

/-- The policy of `build_client`. `previous` are the URLs requested so far, the first one first. -/
def policy (allowCrossOriginRedirects : Bool) (previous : List Url) (attempt : Redirect) : Action :=
  if !redirectPreservesRequest attempt.status then .stop
  else if maxRedirectHops < previous.length then .error "too many redirects"
  else
    match previous.head? with
    | none => .follow
    | some original =>
      if shouldFollowRedirect original attempt.url allowCrossOriginRedirects then .follow
      else .error ("redirect to a different origin was not followed; set " ++
        "HttpClientConfig::follow_cross_origin_redirects to allow it (an https-to-http " ++
        "downgrade is never followed)")

def followed (allow : Bool) (previous : List Url) : List Redirect → List Redirect
  | [] => []
  | redirect :: rest =>
    if policy allow previous redirect = .follow then
      redirect :: followed allow (previous ++ [redirect.url]) rest
    else []

def admits (allow : Bool) (first : Url) (redirect : Redirect) : Bool :=
  redirectPreservesRequest redirect.status && shouldFollowRedirect first redirect.url allow

variable {allow : Bool} {first : Url}

theorem policy_eq_follow_iff {previous : List Url} {redirect : Redirect} :
    policy allow (first :: previous) redirect = .follow ↔
      admits allow first redirect = true ∧ previous.length < maxRedirectHops := by
  unfold policy admits
  cases redirectPreservesRequest redirect.status with
  | false => simp
  | true =>
    simp only [Bool.not_true, Bool.false_eq_true, if_false, List.length_cons, List.head?_cons,
      Bool.true_and]
    by_cases hlong : maxRedirectHops < previous.length + 1
    · rw [if_pos hlong]
      exact iff_of_false nofun fun h => absurd h.2 (by omega)
    · rw [if_neg hlong]
      have hshort : previous.length < maxRedirectHops := by omega
      cases shouldFollowRedirect first redirect.url allow <;> simp [hshort]

theorem followed_eq (previous : List Url) (redirects : List Redirect) :
    followed allow (first :: previous) redirects =
      (redirects.takeWhile (admits allow first)).take (maxRedirectHops - previous.length) := by
  induction redirects generalizing previous with
  | nil => rw [followed, List.takeWhile_nil, List.take_nil]
  | cons redirect rest ih =>
    rw [followed, List.takeWhile_cons]
    by_cases hadmits : admits allow first redirect = true
    · by_cases hshort : previous.length < maxRedirectHops
      · have hleft : maxRedirectHops - previous.length =
            maxRedirectHops - (previous ++ [redirect.url]).length + 1 := by
          rw [List.length_append, List.length_singleton]
          omega
        rw [if_pos (policy_eq_follow_iff.2 ⟨hadmits, hshort⟩), if_pos hadmits, hleft,
          List.take_succ_cons]
        exact congrArg _ (ih _)
      · have hleft : maxRedirectHops - previous.length = 0 := by omega
        rw [if_neg fun h => hshort (policy_eq_follow_iff.1 h).2, hleft, List.take_zero]
    · rw [if_neg fun h => hadmits (policy_eq_follow_iff.1 h).1, if_neg hadmits, List.take_nil]

/-- A hop from `https` leads to `https`. -/
def Secure (url next : Url) : Prop :=
  url.scheme = "https" → next.scheme = "https"

instance (url next : Url) : Decidable (Secure url next) :=
  inferInstanceAs (Decidable (_ → _))

structure Lawful (allow : Bool) (first : Url) (hops : List Redirect) : Prop where
  kept : ∀ hop ∈ hops, hop.status = 307 ∨ hop.status = 308
  secure : List.IsChain Secure (first :: hops.map Redirect.url)
  sameOrigin : allow = false → ∀ hop ∈ hops, first.SameOrigin hop.url
  bounded : hops.length ≤ maxRedirectHops

def keeping (redirects : List Redirect) : List Redirect :=
  (redirects.takeWhile fun redirect => redirectPreservesRequest redirect.status).take maxRedirectHops

theorem secure_of_same {rest : List Url}
    (h : ∀ url ∈ rest, url.scheme = "https" ↔ first.scheme = "https") :
    List.IsChain Secure (first :: rest) := by
  refine List.Pairwise.isChain (List.pairwise_of_forall_mem_list fun url hurl next hnext => ?_)
  have hsame : ∀ other ∈ first :: rest, other.scheme = "https" ↔ first.scheme = "https" := by
    intro other hother
    rcases List.mem_cons.1 hother with rfl | hother
    · exact Iff.rfl
    · exact h other hother
  exact fun hscheme => (hsame next hnext).2 ((hsame url hurl).1 hscheme)

theorem admits_of_mem {redirects : List Redirect} {hop : Redirect}
    (hmem : hop ∈ followed allow [first] redirects) : admits allow first hop = true := by
  rw [followed_eq] at hmem
  exact List.mem_takeWhile_imp (List.mem_of_mem_take hmem)

theorem should_follow_redirect_iff {target : Url} :
    shouldFollowRedirect first target allow = true ↔
      Secure first target ∧ (allow = false → first.SameOrigin target) := by
  unfold shouldFollowRedirect Secure
  split
  next hdowngrade => exact iff_of_false nofun fun h => hdowngrade.2 (h.1 hdowngrade.1)
  next hkept =>
    have hsecure : first.scheme = "https" → target.scheme = "https" := by
      intro hfirst
      by_contra htarget
      exact hkept ⟨hfirst, htarget⟩
    cases allow with
    | true => exact iff_of_true rfl ⟨hsecure, nofun⟩
    | false =>
      exact ⟨fun h => ⟨hsecure, fun _ => of_decide_eq_true h⟩, fun h => decide_eq_true (h.2 rfl)⟩

theorem redirect_preserves_request_iff {status : ℕ} :
    redirectPreservesRequest status = true ↔ status = 307 ∨ status = 308 := by
  simp [redirectPreservesRequest]

/-- The policy is kept along a chain exactly when, where the client follows redirects to other
origins from a URL that is not `https`, no redirect that it can follow leads from `https` elsewhere. -/
theorem redirects_lawful_iff (allow : Bool) (first : Url) (redirects : List Redirect) :
    Lawful allow first (followed allow [first] redirects) ↔
      (allow = true → first.scheme ≠ "https" →
        List.IsChain Secure (first :: (keeping redirects).map Redirect.url)) := by
  have hadmits : ∀ hop ∈ followed allow [first] redirects, (hop.status = 307 ∨ hop.status = 308) ∧
      Secure first hop.url ∧ (allow = false → first.SameOrigin hop.url) := by
    intro hop hmem
    obtain ⟨hkept, hfollow⟩ := Bool.and_eq_true_iff.1 (admits_of_mem hmem)
    exact ⟨redirect_preserves_request_iff.1 hkept, should_follow_redirect_iff.1 hfollow⟩
  have hbounded : (followed allow [first] redirects).length ≤ maxRedirectHops := by
    rw [followed_eq]
    exact List.length_take_le _ _
  have hlawful : Lawful allow first (followed allow [first] redirects) ↔
      List.IsChain Secure (first :: (followed allow [first] redirects).map Redirect.url) :=
    ⟨Lawful.secure, fun hsecure =>
      { kept := fun hop hmem => (hadmits hop hmem).1
        secure := hsecure
        sameOrigin := fun hallow hop hmem => (hadmits hop hmem).2.2 hallow
        bounded := hbounded }⟩
  rw [hlawful]
  by_cases hopen : allow = true ∧ first.scheme ≠ "https"
  · -- every redirect that keeps the request is admitted
    obtain ⟨rfl, hscheme⟩ := hopen
    have hall : admits true first = fun redirect => redirectPreservesRequest redirect.status := by
      funext redirect
      have hfollow : shouldFollowRedirect first redirect.url true = true :=
        should_follow_redirect_iff.2 ⟨fun h => absurd h hscheme, nofun⟩
      rw [admits, hfollow, Bool.and_true]
    have hfollowed : followed true [first] redirects = keeping redirects := by
      rw [followed_eq, hall]
      rfl
    rw [hfollowed]
    exact ⟨fun h _ _ => h, fun h => h rfl hscheme⟩
  · refine iff_of_true (secure_of_same fun url hurl => ?_) fun hallow hscheme =>
      absurd ⟨hallow, hscheme⟩ hopen
    obtain ⟨hop, hmem, rfl⟩ := List.mem_map.1 hurl
    obtain ⟨-, hsecure, horigin⟩ := hadmits hop hmem
    cases allow with
    | false => rw [(horigin rfl).1]
    | true =>
      have hfirst : first.scheme = "https" := by
        by_contra hscheme
        exact hopen ⟨rfl, hscheme⟩
      exact iff_of_true (hsecure hfirst) hfirst

/-- A chain that goes over `https` and leaves it: both hops are followed. -/
theorem downgrade_in_chain_followed :
    ¬∀ (allow : Bool) (first : Url) (redirects : List Redirect),
      Lawful allow first (followed allow [first] redirects) := by
  intro h
  have hsecure := (h true ⟨"http", some "a", none⟩
    [⟨307, ⟨"https", some "b", none⟩⟩, ⟨307, ⟨"http", some "c", none⟩⟩]).secure
  exact absurd hsecure (by decide)

end TowerMcp.Redirects
