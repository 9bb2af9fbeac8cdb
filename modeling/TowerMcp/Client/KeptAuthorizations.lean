import TowerMcp.Client.RejectedTokens

/-!
# Authorizations that are kept

Whether a token that an authorization was completed with is lost to a refresh. A refresh takes the
current token, waits for the token endpoint, and writes what it got to the store and to the memory;
an authorization writes the same two places, and the two do not wait for one another.
-/

namespace TowerMcp

open Execution

namespace OAuthAuthorizationFlow

/-! ## What has happened -/

/-- The history of a flow: the access tokens that have been current, each at its first time and the
latest first; the tokens that were issued for a refresh, each with the one that was refreshed; and
the authorizations that completed, each with its binding and its token. -/
structure History where
  past : List String := []
  refreshes : List (String × String) := []
  completed : List (OAuthTokenBinding × String) := []
deriving DecidableEq

structure Ledger where
  state : FlowState
  history : History := {}

namespace History

variable (self : History)

def Before (earlier later : String) : Prop :=
  [later, earlier].Sublist self.past

def Refreshes (refreshed later : String) : Prop :=
  ∃ refresh ∈ self.refreshes, refresh.1 = refreshed ∧ self.Before refresh.2 later

def Outdated (active : ActiveToken) : Prop :=
  ∃ grant ∈ self.completed,
    grant.1 = active.binding ∧ self.Refreshes active.token.accessToken grant.2

def mark (current : Option ActiveToken) : History :=
  match current with
  | none => self
  | some active =>
    if active.token.accessToken ∈ self.past then self
    else { self with past := active.token.accessToken :: self.past }

def refresh (state next : FlowState) : Phase → History
  | .refreshing active _ =>
    { self with
      refreshes := ((next.issued.take (next.issued.length - state.issued.length)).map
        fun accessToken => (accessToken, active.token.accessToken)) ++ self.refreshes }
  | _ => self

def complete : Phase → History
  | .writing active .callback =>
    { self with completed := (active.binding, active.token.accessToken) :: self.completed }
  | _ => self

def note (state next : FlowState) (event : Event) : History :=
  match event.action with
  | .advance ticket _ =>
    match state.calls.get ticket with
    | some phase => ((self.refresh state next phase).mark next.current).complete phase
    | none => self.mark next.current
  | _ => self.mark next.current

end History

def Ledger.step (flow : OAuthAuthorizationFlow) (self : Ledger) (event : Event) : Option Ledger :=
  (flow.step self.state event).map fun next => ⟨next, self.history.note self.state next event⟩

/-- No authorization that completed is lost: neither the current nor a stored token is the refresh
of a token that was current before the one of such an authorization, of the same binding. -/
def NotLost (self : Ledger) : Prop :=
  (∀ active, self.state.current = some active → ¬self.history.Outdated active) ∧
    ∀ binding token, self.state.tokens.lookup binding = some token →
      ¬self.history.Outdated ⟨binding, token⟩

/-! ## When none is lost -/

def Phase.carries : Phase → Option ActiveToken
  | .adopting active _ | .writing active _ | .removing active _ | .resuming active _ => some active
  | _ => none

/-- The authorization with a token completes over nothing newer: the refresh of a token of its
binding that was current before is neither stored, nor is a call about to make it the current one.
-/
def Ledger.Clear (self : Ledger) (granted : ActiveToken) : Prop :=
  let history := self.history.mark (some granted)
  (∀ stored, self.state.tokens.lookup granted.binding = some stored →
    ¬history.Refreshes stored.accessToken granted.token.accessToken) ∧
  self.state.calls.Holds fun phase =>
    ∀ active, phase.carries = some active → active.binding = granted.binding →
      ¬history.Refreshes active.token.accessToken granted.token.accessToken

/-- A step at which no refresh overlaps with an authorization of the same binding: a token is
refreshed while no authorization has completed since it was current; and an authorization completes
while the refresh of no earlier token is stored or about to be written. -/
def Ledger.Meets (self : Ledger) (event : Event) : Prop :=
  match event.action with
  | .advance ticket (.responded (.ok _) _) =>
    ∀ active use, self.state.calls.get ticket = some (.refreshing active use) →
      ∀ grant ∈ self.history.completed, grant.1 = active.binding →
        ¬self.history.Before active.token.accessToken grant.2
  | .advance ticket .proceed =>
    ∀ granted, self.state.calls.get ticket = some (.writing granted .callback) →
      self.Clear granted
  | _ => True

/-! ## Tokens that may be kept -/

section Kept

variable {flow : OAuthAuthorizationFlow} {history : History} {issued : List String}
  {state next : FlowState} {ticket : ℕ} {use : TokenUse} {active : ActiveToken} {phase : Phase}

structure Kept (history : History) (issued : List String) (active : ActiveToken) : Prop where
  issued : active.token.accessToken ∈ issued
  current : ¬history.Outdated active

structure Granted (history : History) (issued : List String) (active : ActiveToken) : Prop where
  issued : active.token.accessToken ∈ issued
  first : ∀ refresh ∈ history.refreshes, refresh.1 ≠ active.token.accessToken

def Phase.Keeps (history : History) (issued : List String) : Phase → Prop
  | .removing active _ | .writing active .callback => Granted history issued active
  | .adopting active use => use ≠ .callback ∧ Kept history issued active
  | .writing active (.attempt _) | .writing active .caller | .resuming active _ =>
    Kept history issued active
  | .asked use | .waiting use | .reloading _ use | .refreshing _ use | .restoring _ use _ =>
    use ≠ .callback
  | _ => True

structure History.Sound (history : History) (state : FlowState) : Prop where
  refreshed : ∀ refresh ∈ history.refreshes, refresh.1 ∈ state.issued
  completed : ∀ grant ∈ history.completed, grant.2 ∈ history.past
  current : ∀ active, state.current = some active → Kept history state.issued active
  stored : ∀ binding token, state.tokens.lookup binding = some token →
    Kept history state.issued ⟨binding, token⟩
  calls : state.calls.Holds (Phase.Keeps history state.issued)

theorem Granted.kept (h : Granted history issued active) : Kept history issued active := by
  refine ⟨h.issued, ?_⟩
  rintro ⟨grant, _, _, refresh, hrefresh, hsame, _⟩
  exact h.first refresh hrefresh hsame

theorem keeps_writing (huse : use ≠ .callback) (hkept : Kept history issued active) :
    (Phase.writing active use).Keeps history issued := by
  cases use with
  | caller => exact hkept
  | attempt _ => exact hkept
  | callback => exact absurd rfl huse

theorem Phase.Keeps.kept_of_carries (h : phase.Keeps history issued)
    (hcarries : phase.carries = some active) : Kept history issued active := by
  cases phase with
  | adopting _ _ =>
    cases hcarries
    exact h.2
  | writing _ use =>
    cases hcarries
    cases use with
    | caller => exact h
    | attempt _ => exact h
    | callback => exact Granted.kept h
  | removing _ _ =>
    cases hcarries
    exact Granted.kept h
  | resuming _ _ =>
    cases hcarries
    exact h
  | asked _ | waiting _ | reloading _ _ | refreshing _ _ | restoring _ _ _ | clearing _ _ _ _
  | discarding _ _ _ | discovering _ | selecting _ | pending _ | authorizing _ | calledBack _ _
  | exchanging _ => cases hcarries

/-! ## A history that grows -/

/-- A history follows another: no authorization completes, what is known of the tokens that were
issued stays, and no token turns out to have been current before one of an authorization. -/
structure History.Follows (history later : History) (issued : List String) : Prop where
  completed : later.completed = history.completed
  refreshes : ∀ refresh ∈ later.refreshes, refresh.1 ∈ issued → refresh ∈ history.refreshes
  past : ∀ grant ∈ history.completed, ∀ earlier,
    later.Before earlier grant.2 → history.Before earlier grant.2

section Follows

variable {later : History} {all : List String} (hfollows : history.Follows later issued)

include hfollows

theorem Kept.follow (h : Kept history issued active) (hissued : issued ⊆ all) :
    Kept later all active := by
  refine ⟨hissued h.issued, ?_⟩
  rintro ⟨grant, hgrant, hbinding, refresh, hrefresh, hsame, hbefore⟩
  rw [hfollows.completed] at hgrant
  have hknown := hfollows.refreshes refresh hrefresh (hsame ▸ h.issued)
  exact h.current ⟨grant, hgrant, hbinding, refresh, hknown, hsame,
    hfollows.past grant hgrant refresh.2 hbefore⟩

theorem Granted.follow (h : Granted history issued active) (hissued : issued ⊆ all) :
    Granted later all active := by
  refine ⟨hissued h.issued, fun refresh hrefresh hsame => ?_⟩
  exact h.first refresh (hfollows.refreshes refresh hrefresh (hsame ▸ h.issued)) hsame

theorem Phase.Keeps.follow (h : phase.Keeps history issued) (hissued : issued ⊆ all) :
    phase.Keeps later all := by
  cases phase with
  | removing _ _ => exact Granted.follow hfollows h hissued
  | writing _ use =>
    cases use with
    | caller => exact Kept.follow hfollows h hissued
    | attempt _ => exact Kept.follow hfollows h hissued
    | callback => exact Granted.follow hfollows h hissued
  | adopting _ _ => exact ⟨h.1, Kept.follow hfollows h.2 hissued⟩
  | resuming _ _ => exact Kept.follow hfollows h hissued
  | asked _ | waiting _ | reloading _ _ | refreshing _ _ | restoring _ _ _ => exact h
  | clearing _ _ _ _ | discarding _ _ _ | discovering _ | selecting _ | pending _
  | authorizing _ | calledBack _ _ | exchanging _ => trivial

end Follows

namespace History.Sound

theorem follow {later : History} {all : List String} (h : history.Sound state)
    (hfollows : history.Follows later state.issued) (hissued : state.issued ⊆ all)
    (hrefreshed : ∀ refresh ∈ later.refreshes, refresh.1 ∈ all)
    (hpast : history.past ⊆ later.past) : later.Sound { state with issued := all } where
  refreshed := hrefreshed
  completed := by
    rw [hfollows.completed]
    exact fun grant hgrant => hpast (h.completed grant hgrant)
  current := fun active hcurrent => (h.current active hcurrent).follow hfollows hissued
  stored := fun binding token hlookup => (h.stored binding token hlookup).follow hfollows hissued
  calls := h.calls.mono fun _ hkeeps => hkeeps.follow hfollows hissued

theorem mark (h : history.Sound state) (current : Option ActiveToken) :
    (history.mark current).Sound state := by
  unfold History.mark
  cases current with
  | none => exact h
  | some active =>
    dsimp only
    split
    next => exact h
    next hnew =>
      refine h.follow ⟨rfl, fun _ hrefresh _ => hrefresh, ?_⟩ (fun _ hmem => hmem) h.refreshed
        (List.subset_cons_self _ _)
      intro grant hgrant earlier hbefore
      obtain hbefore | ⟨hsame, _⟩ := List.cons_sublist_cons'.1 hbefore
      · exact hbefore
      · exact absurd (hsame ▸ h.completed grant hgrant) hnew

theorem with_issued (h : history.Sound state) (accessToken : String) :
    history.Sound { state with issued := accessToken :: state.issued } :=
  h.follow ⟨rfl, fun _ hrefresh _ => hrefresh, fun _ _ _ hbefore => hbefore⟩
    (List.subset_cons_self _ _)
    (fun refresh hrefresh => List.mem_cons_of_mem _ (h.refreshed refresh hrefresh))
    (fun _ hmem => hmem)

theorem with_refresh (h : history.Sound state) {accessToken : String} (refreshed : String)
    (hnew : accessToken ∉ state.issued) :
    { history with refreshes := (accessToken, refreshed) :: history.refreshes }.Sound
      { state with issued := accessToken :: state.issued } := by
  refine h.follow ⟨rfl, ?_, fun _ _ _ hbefore => hbefore⟩ (List.subset_cons_self _ _) ?_
    (fun _ hmem => hmem)
  · intro refresh hrefresh hissued
    obtain rfl | hrefresh := List.mem_cons.1 hrefresh
    · exact absurd hissued hnew
    · exact hrefresh
  · intro refresh hrefresh
    obtain rfl | hrefresh := List.mem_cons.1 hrefresh
    · exact List.mem_cons_self
    · exact List.mem_cons_of_mem _ (h.refreshed refresh hrefresh)

/-! ## Steps of a call -/

theorem move (h : history.Sound state) (hkeeps : phase.Keeps history state.issued) :
    history.Sound (state.move ticket phase) where
  refreshed := h.refreshed
  completed := h.completed
  current := h.current
  stored := h.stored
  calls := h.calls.become hkeeps

theorem settle (h : history.Sound state) (report : Report) :
    history.Sound (state.settle ticket report) where
  refreshed := h.refreshed
  completed := h.completed
  current := h.current
  stored := h.stored
  calls := h.calls.finish

theorem hand_out (h : history.Sound state) (accessToken : String) :
    history.Sound (state.handOut ticket use accessToken) := by
  cases use with
  | caller => exact h.settle _
  | attempt _ => exact h.settle _
  | callback => exact h.settle _

theorem fail (h : history.Sound state) (error : OAuthClientError) :
    history.Sound (state.fail ticket use error) := by
  unfold FlowState.fail
  split
  next => exact h.move trivial
  next => exact h.settle _

theorem start (h : history.Sound state) (hkeeps : phase.Keeps history state.issued) :
    history.Sound (state.start phase) where
  refreshed := h.refreshed
  completed := h.completed
  current := h.current
  stored := h.stored
  calls := h.calls.start hkeeps

theorem write (h : history.Sound state) {current : Option ActiveToken}
    (hkept : ∀ active, current = some active → Kept history state.issued active) :
    history.Sound { state with current } where
  refreshed := h.refreshed
  completed := h.completed
  current := hkept
  stored := h.stored
  calls := h.calls

theorem store (h : history.Sound state) {tokens : FinMap OAuthTokenBinding OAuthStoredToken}
    (hkept : ∀ binding token, tokens.lookup binding = some token →
      Kept history state.issued ⟨binding, token⟩) :
    history.Sound { state with tokens } where
  refreshed := h.refreshed
  completed := h.completed
  current := h.current
  stored := hkept
  calls := h.calls

theorem states (h : history.Sound state)
    (states : FinMap String OAuthPendingAuthorizationState) :
    history.Sound { state with states } where
  refreshed := h.refreshed
  completed := h.completed
  current := h.current
  stored := h.stored
  calls := h.calls

theorem discard (h : history.Sound state) (binding : OAuthTokenBinding)
    (outcome : Fallible.Outcome OAuthClientError) :
    history.Sound { state with
      tokens := outcome.write (fun tokens => tokens.erase binding) state.tokens } := by
  refine h.store fun other token hlookup => h.stored other token ?_
  obtain ⟨_, hwrite⟩ | ⟨_, hwrite⟩ :=
    outcome.write_cases (fun tokens => tokens.erase binding) state.tokens
  · rw [hwrite, FinMap.lookup_erase_eq_ite] at hlookup
    exact (Option.ite_none_left_eq_some.1 hlookup).2
  · rw [hwrite] at hlookup
    exact hlookup

variable {save : Fallible.Outcome OAuthClientError}

theorem issue (h : history.Sound { state with issued := active.token.accessToken :: state.issued })
    (hkept : Kept history (active.token.accessToken :: state.issued) active)
    (hkeeps : phase.Keeps history (active.token.accessToken :: state.issued))
    (hissue : state.issue ticket use active save phase = some next) : history.Sound next := by
  obtain ⟨_, hrest⟩ := Option.ite_none_left_eq_some.1 hissue
  have hstored : ∀ binding token,
      (save.write (fun tokens => tokens.insert active.binding active.token) state.tokens).lookup
          binding = some token →
        Kept history (active.token.accessToken :: state.issued) ⟨binding, token⟩ := by
    intro binding token hlookup
    obtain ⟨_, hwrite⟩ | ⟨_, hwrite⟩ :=
      save.write_cases (fun tokens => tokens.insert active.binding active.token) state.tokens
    · rw [hwrite, FinMap.lookup_insert_eq_ite] at hlookup
      split at hlookup
      next hsame =>
        cases hlookup
        rw [hsame]
        exact hkept
      next => exact h.stored binding token hlookup
    · rw [hwrite] at hlookup
      exact h.stored binding token hlookup
  have hsaved := h.store hstored
  cases save with
  | refused error =>
    cases hrest
    exact hsaved.fail error
  | lost error =>
    cases hrest
    exact hsaved.fail error
  | done =>
    cases hrest
    exact hsaved.move hkeeps

variable {now : ℕ}

theorem kept_of_adoptable (h : history.Sound state) {stored : OAuthStoredToken}
    (hadoptable : flow.adoptable state now active = some stored) :
    Kept history state.issued { active with token := stored } :=
  h.stored _ _ (Option.filter_eq_some_iff.1 hadoptable).1

theorem reload (h : history.Sound state) (huse : use ≠ .callback) (now : ℕ) :
    history.Sound (flow.reload state now ticket active use) := by
  unfold OAuthAuthorizationFlow.reload
  split
  next stored hadoptable => exact h.move ⟨huse, h.kept_of_adoptable hadoptable⟩
  next =>
    split
    next => exact h.move huse
    next => exact h.fail _

theorem restore (h : history.Sound state) (huse : use ≠ .callback) (now : ℕ)
    (message : String) :
    history.Sound (flow.restore state now ticket active use message) := by
  unfold OAuthAuthorizationFlow.restore
  split
  next stored hadoptable => exact h.move ⟨huse, h.kept_of_adoptable hadoptable⟩
  next => exact h.move trivial

theorem select (h : history.Sound state) (now : ℕ) (attempt : Attempt) :
    history.Sound (flow.select state now ticket attempt) := by
  unfold OAuthAuthorizationFlow.select
  split
  next token hrestorable =>
    have hkept : Kept history state.issued ⟨attempt.request.binding, token⟩ :=
      h.stored _ _ (Option.filter_eq_some_iff.1 hrestorable).1
    have hmoved : history.Sound
        (state.move ticket (.resuming ⟨attempt.request.binding, token⟩ attempt)) :=
      h.move hkept
    exact
      { refreshed := hmoved.refreshed
        completed := hmoved.completed
        current := hmoved.current
        stored := hmoved.stored
        calls := hmoved.calls }
  next => exact h.move trivial

theorem exchange (h : history.Sound state) (url : String) (expected : Option String)
    (failure : Option OAuthClientError) :
    history.Sound (flow.exchange state ticket url expected failure) := by
  unfold OAuthAuthorizationFlow.exchange
  split
  next => exact h.settle _
  next =>
    split
    next => exact h.settle _
    next =>
      split
      next => exact h.settle _
      next => exact h.settle _
      next =>
        split
        next => exact h.settle _
        next => exact h.settle _
        next => exact h.move trivial

theorem issued_fail (state : FlowState) (ticket : ℕ) (use : TokenUse) (error : OAuthClientError) :
    (state.fail ticket use error).issued = state.issued := by
  unfold FlowState.fail
  split <;> rfl

theorem issued_issue (hissue : state.issue ticket use active save phase = some next) :
    active.token.accessToken ∉ state.issued ∧
      next.issued = active.token.accessToken :: state.issued := by
  obtain ⟨hnew, hrest⟩ := Option.ite_none_left_eq_some.1 hissue
  refine ⟨hnew, ?_⟩
  cases save with
  | refused error =>
    cases hrest
    exact issued_fail _ ticket use error
  | lost error =>
    cases hrest
    exact issued_fail _ ticket use error
  | done =>
    cases hrest
    rfl

theorem refresh_of_same (hissued : next.issued = state.issued) :
    history.refresh state next phase = history := by
  cases phase <;> simp [History.refresh, hissued]

theorem refresh_of_issued {accessToken : String}
    (hissued : next.issued = accessToken :: state.issued) :
    history.refresh state next (.refreshing active use) =
      { history with
        refreshes := (accessToken, active.token.accessToken) :: history.refreshes } := by
  simp [History.refresh, hissued]

theorem kept_of_refreshed (h : history.Sound state) {token : OAuthStoredToken}
    (hnew : token.accessToken ∉ state.issued)
    (hmeets : ∀ grant ∈ history.completed, grant.1 = active.binding →
      ¬history.Before active.token.accessToken grant.2) :
    Kept { history with
        refreshes := (token.accessToken, active.token.accessToken) :: history.refreshes }
      (token.accessToken :: state.issued) { active with token } := by
  refine ⟨List.mem_cons_self, ?_⟩
  rintro ⟨grant, hgrant, hbinding, refresh, hrefresh, hsame, hbefore⟩
  obtain rfl | hrefresh := List.mem_cons.1 hrefresh
  · exact hmeets grant hgrant hbinding hbefore
  · exact hnew (hsame ▸ h.refreshed refresh hrefresh)

theorem advance (h : history.Sound state) {input : Input}
    (hkeeps : phase.Keeps history state.issued)
    (hmeets : ∀ active use response save, phase = .refreshing active use →
      input = .responded (.ok response) save →
        ∀ grant ∈ history.completed, grant.1 = active.binding →
          ¬history.Before active.token.accessToken grant.2)
    (hadvance : flow.advance state now ticket phase input = some next) :
    (history.refresh state next phase).Sound next := by
  unfold OAuthAuthorizationFlow.advance at hadvance
  split at hadvance
  next use =>
    -- `asked`
    split at hadvance
    next =>
      cases hadvance
      exact h.hand_out _
    next =>
      cases hadvance
      exact h.move hkeeps
  next use =>
    -- `waiting`
    obtain ⟨_, hadvance⟩ := Option.ite_none_left_eq_some.1 hadvance
    split at hadvance
    next =>
      cases hadvance
      exact h.hand_out _
    next =>
      cases hadvance
      exact h.move hkeeps
    next =>
      cases hadvance
      exact h.fail _
  next =>
    -- `reloading`
    cases hadvance
    exact h.fail _
  next =>
    cases hadvance
    exact h.reload hkeeps _
  next active use =>
    -- `adopting`
    cases hadvance
    refine (h.write ?_).hand_out _
    exact fun other hother => Option.some.inj hother ▸ hkeeps.2
  next active use =>
    -- `writing`
    cases hadvance
    refine (h.write ?_).hand_out _
    exact fun other hother => Option.some.inj hother ▸ hkeeps.kept_of_carries rfl
  next active use message _ =>
    -- `refreshing`
    cases hadvance
    have hsame : (state.move ticket (.restoring active use message)).issued = state.issued := rfl
    rw [refresh_of_same hsame]
    exact h.move hkeeps
  next =>
    cases hadvance
    rw [refresh_of_same (issued_fail _ _ _ _)]
    exact h.fail _
  next active use response save =>
    have hmeets := hmeets active use response save rfl rfl
    split at hadvance
    next =>
      cases hadvance
      rw [refresh_of_same (issued_fail _ _ _ _)]
      exact h.fail _
    next token _ =>
      obtain ⟨hnew, hissued⟩ := issued_issue hadvance
      rw [refresh_of_issued hissued]
      have hkept := h.kept_of_refreshed hnew hmeets
      exact (h.with_refresh active.token.accessToken hnew).issue hkept
        (keeps_writing hkeeps hkept) hadvance
  next =>
    -- `restoring`
    cases hadvance
    exact h.fail _
  next =>
    cases hadvance
    exact h.restore hkeeps _ _
  next =>
    -- `clearing`
    have hcleared := h.write (nofun : ∀ active, none = some active → _)
    split at hadvance
    next =>
      cases hadvance
      exact hcleared.move trivial
    next =>
      cases hadvance
      exact hcleared.fail _
  next binding _ _ outcome =>
    -- `discarding`
    split at hadvance
    next =>
      cases hadvance
      exact (h.discard binding outcome).fail _
    next =>
      cases hadvance
      exact (h.discard binding outcome).fail _
  next =>
    -- `discovering`
    cases hadvance
    exact h.settle _
  next =>
    cases hadvance
    exact h.move trivial
  next =>
    -- `selecting`
    cases hadvance
    exact h.settle _
  next attempt =>
    cases hadvance
    exact h.select _ _
  next active attempt =>
    -- `resuming`
    have hresumed : history.Sound { state with current := some active } :=
      h.write fun other hother => Option.some.inj hother ▸ hkeeps
    split at hadvance
    next =>
      cases hadvance
      exact hresumed.settle _
    next =>
      cases hadvance
      exact hresumed.move nofun
  next attempt outcome =>
    -- `pending`
    split at hadvance
    next =>
      cases hadvance
      exact (h.states _).settle _
    next =>
      split at hadvance
      next =>
        cases hadvance
        exact (h.states _).move trivial
      next =>
        cases hadvance
        exact (h.states _).settle _
  next =>
    -- `authorizing`
    cases hadvance
    exact h.settle _
  next =>
    cases hadvance
    exact h.move trivial
  next =>
    -- `calledBack`
    cases hadvance
    exact h.exchange _ _ _
  next =>
    -- `exchanging`
    cases hadvance
    exact h.settle _
  next request response save =>
    split at hadvance
    next =>
      cases hadvance
      exact h.settle _
    next token _ =>
      obtain ⟨hnew, _⟩ := issued_issue hadvance
      have hgranted : Granted history (token.accessToken :: state.issued)
          ⟨request.binding, token⟩ := by
        refine ⟨List.mem_cons_self, fun refresh hrefresh hsame => hnew ?_⟩
        rw [← hsame]
        exact h.refreshed refresh hrefresh
      have hremoving : (Phase.removing ⟨request.binding, token⟩ request.state).Keeps history
          (token.accessToken :: state.issued) := hgranted
      show history.Sound next
      exact (h.with_issued token.accessToken).issue hgranted.kept hremoving hadvance
  next active key outcome =>
    -- `removing`
    split at hadvance
    next =>
      cases hadvance
      exact (h.states _).settle _
    next =>
      cases hadvance
      exact (h.states _).move hkeeps
  next => cases hadvance

/-! ## Authorizations that complete -/

variable {granted : ActiveToken}

theorem kept_of_complete (h : Kept history issued active)
    (hclear : active.binding = granted.binding →
      ¬history.Refreshes active.token.accessToken granted.token.accessToken) :
    Kept (history.complete (.writing granted .callback)) issued active := by
  refine ⟨h.issued, ?_⟩
  rintro ⟨grant, hgrant, hbinding, hrefreshes⟩
  obtain rfl | hgrant := List.mem_cons.1 hgrant
  · exact hclear hbinding.symm hrefreshes
  · exact h.current ⟨grant, hgrant, hbinding, hrefreshes⟩

theorem keeps_of_complete (h : phase.Keeps history issued)
    (hclear : ∀ active, phase.carries = some active → active.binding = granted.binding →
      ¬history.Refreshes active.token.accessToken granted.token.accessToken) :
    phase.Keeps (history.complete (.writing granted .callback)) issued := by
  cases phase with
  | removing _ _ => exact ⟨h.issued, h.first⟩
  | writing active use =>
    cases use with
    | caller => exact kept_of_complete h (hclear active rfl)
    | attempt _ => exact kept_of_complete h (hclear active rfl)
    | callback => exact ⟨h.issued, h.first⟩
  | adopting active _ => exact ⟨h.1, kept_of_complete h.2 (hclear active rfl)⟩
  | resuming active _ => exact kept_of_complete h (hclear active rfl)
  | asked _ | waiting _ | reloading _ _ | refreshing _ _ | restoring _ _ _ => exact h
  | clearing _ _ _ _ | discarding _ _ _ | discovering _ | selecting _ | pending _
  | authorizing _ | calledBack _ _ | exchanging _ => trivial

theorem complete (h : history.Sound state)
    (hkeeps : (Phase.writing granted .callback).Keeps history state.issued)
    (hclear : Ledger.Clear ⟨state, history⟩ granted)
    (hadvance : flow.advance state now ticket (.writing granted .callback) .proceed = some next) :
    ((history.mark next.current).complete (.writing granted .callback)).Sound next := by
  have hgranted : Granted history state.issued granted := hkeeps
  have hnext := h.advance hkeeps nofun hadvance
  cases hadvance
  obtain ⟨hstored, hcalls⟩ := hclear
  have hmarked := hnext.mark (some granted)
  have hpast : granted.token.accessToken ∈ (history.mark (some granted)).past := by
    unfold History.mark
    dsimp only
    split
    next hmem => exact hmem
    next => exact List.mem_cons_self
  refine
    { refreshed := hmarked.refreshed
      completed := List.forall_mem_cons.2 ⟨hpast, hmarked.completed⟩
      current := ?_
      stored := ?_
      calls := ?_ }
  · intro active hactive
    have hfirst : Granted (history.mark (some granted)) state.issued granted := by
      refine ⟨hgranted.issued, ?_⟩
      have hsame : (history.mark (some granted)).refreshes = history.refreshes := by
        unfold History.mark
        dsimp only
        split <;> rfl
      rw [hsame]
      exact hgranted.first
    cases hactive
    exact Granted.kept ⟨hfirst.issued, hfirst.first⟩
  · intro binding token hlookup
    refine kept_of_complete (hmarked.stored binding token hlookup) ?_
    rintro rfl
    exact hstored token hlookup
  · intro other phase hget
    refine keeps_of_complete (hmarked.calls other phase hget) (hcalls other phase ?_)
    have hfinished : (state.calls.finish ticket).get other = some phase := hget
    rw [Pool.get_finish_eq_ite] at hfinished
    exact (Option.ite_none_left_eq_some.1 hfinished).2

/-! ## Steps -/

theorem step (h : history.Sound state) {event : Event}
    (hmeets : Ledger.Meets ⟨state, history⟩ event) (hstep : flow.step state event = some next) :
    (history.note state next event).Sound next := by
  obtain ⟨now, action⟩ := event
  have hread : history.Sound { state with clock := now } :=
    ⟨h.refreshed, h.completed, h.current, h.stored, h.calls⟩
  cases action with
  | getToken =>
    cases hstep
    refine Sound.mark (hread.start ?_) _
    exact fun huse => by cases huse
  | invalidate =>
    cases hstep
    refine Sound.mark ?_ _
    unfold FlowState.invalidate
    split
    next => exact hread
    next active hcurrent =>
      have hkept := h.current active hcurrent
      refine ⟨h.refreshed, h.completed, ?_, h.stored, h.calls⟩
      rintro _ ⟨⟩
      exact ⟨hkept.issued, hkept.current⟩
  | begin =>
    cases hstep
    refine Sound.mark (hread.start ?_) _
    trivial
  | completeCallbackUrl url expected =>
    cases hstep
    refine Sound.mark (hread.start ?_) _
    trivial
  | reauthorize resource =>
    refine Sound.mark ?_ _
    unfold OAuthAuthorizationFlow.step at hstep
    dsimp only at hstep
    split at hstep
    next =>
      cases hstep
      exact ⟨h.refreshed, h.completed, h.current, h.stored, h.calls⟩
    next =>
      cases hstep
      refine hread.start ?_
      trivial
  | advance ticket input =>
    unfold OAuthAuthorizationFlow.step at hstep
    dsimp only at hstep
    cases hget : state.calls.get ticket with
    | none =>
      rw [hget] at hstep
      cases hstep
    | some phase =>
      rw [hget] at hstep
      have hkeeps := h.calls ticket phase hget
      have hnote : history.note state next ⟨now, .advance ticket input⟩ =
          ((history.refresh state next phase).mark next.current).complete phase := by
        unfold History.note
        dsimp only
        rw [hget]
      rw [hnote]
      have hrefreshed : (history.refresh state next phase).Sound next := by
        refine hread.advance hkeeps ?_ hstep
        rintro active use response save rfl rfl
        exact hmeets active use hget
      cases phase with
      | writing granted use =>
        cases use with
        | callback =>
          cases input with
          | proceed => exact hread.complete hkeeps (hmeets granted hget) hstep
          | loaded _ | wrote _ | discovered _ | responded _ _ | handled _ => cases hstep
        | caller => exact hrefreshed.mark _
        | attempt _ => exact hrefreshed.mark _
      | asked _ | waiting _ | reloading _ _ | adopting _ _ | refreshing _ _ | restoring _ _ _
      | clearing _ _ _ _ | discarding _ _ _ | discovering _ | selecting _ | resuming _ _
      | pending _ | authorizing _ | calledBack _ _ | exchanging _ | removing _ _ =>
        exact hrefreshed.mark _

end History.Sound

end Kept

/-! ## Runs -/

theorem History.sound_over (tokens : FinMap OAuthTokenBinding OAuthStoredToken) :
    History.Sound {} (.over tokens) where
  refreshed := List.forall_mem_nil _
  completed := List.forall_mem_nil _
  current := nofun
  stored := by
    intro binding token hlookup
    refine ⟨List.mem_map_of_mem (FinMap.mem_values_of_lookup hlookup), ?_⟩
    rintro ⟨grant, hgrant, _⟩
    cases hgrant
  calls := Pool.holds_empty

/-- In every run in which no refresh overlaps with an authorization of the same binding, no
authorization that completed is lost. -/
theorem authorization_kept (flow : OAuthAuthorizationFlow)
    (tokens : FinMap OAuthTokenBinding OAuthStoredToken) {events : List Event}
    (halong : Along (Ledger.step flow) Ledger.Meets ⟨.over tokens, {}⟩ events) :
    Throughout (Ledger.step flow) NotLost ⟨.over tokens, {}⟩ events := by
  have hkeeps : ∀ before event after, before.history.Sound before.state →
      Ledger.Meets before event → Ledger.step flow before event = some after →
        after.history.Sound after.state := by
    intro before event after h hmeets hstep
    obtain ⟨next, hnext, rfl⟩ := Option.map_eq_some_iff.1 hstep
    exact h.step hmeets hnext
  have hsound := throughout_of_along hkeeps (History.sound_over tokens) halong
  refine hsound.mono fun _ h => ⟨?_, ?_⟩
  · exact fun active hcurrent => (h.current active hcurrent).current
  · exact fun binding token hlookup => (h.stored binding token hlookup).current

/-! ## Two runs -/

def escalatedRequest : OAuthPendingAuthorizationState :=
  { plainRequest with state := "escalated", scopes := ["mcp:read", "mcp:write"] }

def refreshable : List Action :=
  [.begin, .advance 0 (.discovered (.ok plainRequest)), .advance 0 (.loaded none),
    .advance 0 (.wrote .done),
    .completeCallbackUrl "state" none, .advance 1 (.loaded none),
    .advance 1 (.responded (.ok
      { accessToken := "first", tokenType := "Bearer", refreshToken := some "refresh" }) .done),
    .advance 1 (.wrote .done), .advance 1 .proceed, .invalidate]

def refreshing : List Action :=
  [.getToken, .advance 2 .proceed, .advance 2 .proceed, .advance 2 (.loaded none)]

def refreshed : List Action :=
  [.advance 2 (.responded (.ok { accessToken := "refreshed", tokenType := "Bearer" }) .done),
    .advance 2 .proceed]

def escalation : List Action :=
  [.reauthorize "https://mcp.example.com", .advance 3 (.discovered (.ok escalatedRequest)),
    .advance 3 (.loaded none), .advance 3 (.wrote .done),
    .advance 3 (.handled (.ok "escalated")), .advance 3 (.loaded none),
    .advance 3 (.responded (.ok { accessToken := "second", tokenType := "Bearer" }) .done),
    .advance 3 (.wrote .done), .advance 3 .proceed]

theorem history_of_overlap :
    ((run (Ledger.step plainFlow) ⟨.over ∅, {}⟩
        (atOnce (refreshable ++ refreshing ++ escalation ++ refreshed))).map
          fun final => (final.state.current, final.history)) =
      some (some ⟨plainRequest.binding, ⟨"refreshed", some "refresh", unixTimeMax, ["mcp:read"]⟩⟩,
        { past := ["refreshed", "second", "first"]
          refreshes := [("refreshed", "first")]
          completed := [(plainRequest.binding, "second"), (plainRequest.binding, "first")] }) := by
  decide +kernel

/-- The escalation is lost: the current token is the refresh of the one that was current before. -/
theorem authorization_lost :
    ∃ final, run (Ledger.step plainFlow) ⟨.over ∅, {}⟩
        (atOnce (refreshable ++ refreshing ++ escalation ++ refreshed)) = some final ∧
      ¬NotLost final := by
  obtain ⟨final, hrun, hfinal⟩ := Option.map_eq_some_iff.1 history_of_overlap
  obtain ⟨hcurrent, hhistory⟩ := Prod.mk.inj hfinal
  refine ⟨final, hrun, fun hkept => hkept.1 _ hcurrent ?_⟩
  rw [hhistory]
  refine ⟨(plainRequest.binding, "second"), List.mem_cons_self, rfl, ("refreshed", "first"),
    List.mem_cons_self, rfl, ?_⟩
  show ["second", "first"].Sublist ["refreshed", "second", "first"]
  decide

theorem authorization_kept_refreshed :
    Throughout (Ledger.step plainFlow) NotLost ⟨.over ∅, {}⟩
      (atOnce (refreshable ++ refreshing ++ refreshed)) := by
  refine authorization_kept plainFlow ∅ ⟨trivial, trivial, trivial, trivial, trivial, trivial,
    ?_, trivial, ?_, trivial, trivial, ?_, ?_, trivial, ?_, ?_, trivial⟩
  · intro active use hget
    cases hget
  · intro granted hget
    cases hget
    refine ⟨?_, ?_⟩
    · rintro stored _ ⟨refresh, hrefresh, _⟩
      cases hrefresh
    · rintro ticket phase _ active _ _ ⟨refresh, hrefresh, _⟩
      cases hrefresh
  · intro granted hget
    cases hget
  · intro granted hget
    cases hget
  · intro active use hget
    cases hget
    intro grant hgrant _ hbefore
    obtain rfl := List.mem_singleton.1 hgrant
    have hpast : ["first", "first"].Sublist ["first"] := hbefore
    exact absurd hpast.length_le (by decide)
  · intro granted hget
    cases hget

end OAuthAuthorizationFlow

end TowerMcp
