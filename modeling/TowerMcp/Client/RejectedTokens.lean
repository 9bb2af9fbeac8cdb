import TowerMcp.Client.OAuthFlow

/-!
# Rejected tokens

Whether a token that was invalidated is handed out again. The mark is only on the copy in memory:
the store keeps the token as it was issued. A call of `get_token` takes a stored token only in the
place of another one, which keeps a rejected token out as long as the store and the current token
agree; an attempt takes what it finds.
-/

namespace TowerMcp

open Execution

namespace OAuthAuthorizationFlow

/-! ## What must not happen -/

def Report.rejects : Report → Option String
  | .invalidated accessToken => some accessToken
  | _ => none

def rejected (log : List Report) : List String :=
  log.filterMap Report.rejects

/-- A report hands out a token after another has invalidated it, or an attempt takes it up although it
has no refresh token. -/
def Report.reuses : Report → Report → Bool
  | .returned accessToken, .invalidated earlier | .authorized accessToken, .invalidated earlier =>
    accessToken == earlier
  | .restored token, .invalidated earlier =>
    token.accessToken == earlier && token.refreshToken.isNone
  | _, _ => false

def NotReused (state : FlowState) : Prop :=
  state.log.Pairwise fun later earlier => later.reuses earlier = false

def Report.Clean (log : List Report) : Report → Prop
  | .returned accessToken | .authorized accessToken => accessToken ∉ rejected log
  | .restored token => token.accessToken ∈ rejected log → token.refreshToken.isSome = true
  | _ => True

theorem mem_rejected {log : List Report} {accessToken : String} :
    accessToken ∈ rejected log ↔ Report.invalidated accessToken ∈ log := by
  unfold rejected
  rw [List.mem_filterMap]
  constructor
  · rintro ⟨report, hmem, hrejects⟩
    cases report with
    | invalidated _ =>
      cases hrejects
      exact hmem
    | returned _ | restored _ | authorized _ | pending _ | completed | failed _ => cases hrejects
  · exact fun hmem => ⟨_, hmem, rfl⟩

theorem Report.Clean.reuses_eq_false {log : List Report} {report earlier : Report}
    (h : report.Clean log) (hmem : earlier ∈ log) : report.reuses earlier = false := by
  cases earlier with
  | returned _ | restored _ | authorized _ | pending _ | completed | failed _ =>
    cases report <;> rfl
  | invalidated accessToken =>
    have hrejected := mem_rejected.2 hmem
    cases report with
    | invalidated _ | pending _ | completed | failed _ => rfl
    | returned other | authorized other =>
      have hother : other ≠ accessToken := fun heq => h (heq ▸ hrejected)
      simpa [Report.reuses] using hother
    | restored token =>
      unfold Report.reuses
      by_cases htoken : token.accessToken = accessToken
      · have hsome : token.refreshToken.isSome = true := h (htoken ▸ hrejected)
        simp [hsome]
      · simp [htoken]

/-! ## Tokens that may be handed out -/

variable {flow : OAuthAuthorizationFlow} {state next : FlowState}

def Agrees (state : FlowState) (active : ActiveToken) : Prop :=
  ∀ stored, state.tokens.lookup active.binding = some stored →
    stored.accessToken ∈ rejected state.log → active.token.accessToken = stored.accessToken

structure Held (flow : OAuthAuthorizationFlow) (state : FlowState) (active : ActiveToken) :
    Prop where
  issued : active.token.accessToken ∈ state.issued
  agrees : Agrees state active
  spent : active.token.accessToken ∈ rejected state.log →
    flow.isValid state.clock active.token = false

structure Fresh (state : FlowState) (active : ActiveToken) : Prop where
  issued : active.token.accessToken ∈ state.issued
  agrees : Agrees state active
  accepted : active.token.accessToken ∉ rejected state.log

def Phase.Fits (flow : OAuthAuthorizationFlow) (state : FlowState) : Phase → Prop
  | .reloading active _ | .refreshing active _ | .restoring active _ _ => Agrees state active
  | .adopting active _ | .writing active _ | .removing active _ => Fresh state active
  | .resuming active _ => Held flow state active
  | _ => True

structure Sound (flow : OAuthAuthorizationFlow) (state : FlowState) : Prop where
  current : ∀ active, state.current = some active → Held flow state active
  stored : ∀ binding token, state.tokens.lookup binding = some token →
    token.accessToken ∈ state.issued
  known : ∀ accessToken ∈ rejected state.log, accessToken ∈ state.issued
  calls : state.calls.Holds (Phase.Fits flow state)
  clean : NotReused state

/-- A call is not disturbed when a token is invalidated: it is not about to write that token; and
while the store has the token, the call is not about to write one with its binding, and holds no
other one with which it would load it. -/
def Phase.Undisturbed (state : FlowState) (accessToken : String) : Phase → Prop
  | .reloading active _ | .refreshing active _ | .restoring active _ _ =>
    ∀ stored, state.tokens.lookup active.binding = some stored →
      stored.accessToken = accessToken → active.token.accessToken = accessToken
  | .adopting active _ | .writing active _ | .removing active _ | .resuming active _ =>
    active.token.accessToken ≠ accessToken ∧
      ∀ stored, state.tokens.lookup active.binding = some stored →
        stored.accessToken ≠ accessToken
  | _ => True

/-- A step that brings no rejected token back: the clock does not go back; an attempt does not find a
rejected token in the store that is still valid there; and a token is invalidated while no call is
disturbed by that. -/
def Meets (flow : OAuthAuthorizationFlow) (state : FlowState) (event : Event) : Prop :=
  state.clock ≤ event.now ∧
    match event.action with
    | .advance ticket (.loaded none) =>
      ∀ attempt, state.calls.get ticket = some (.selecting attempt) →
        ∀ token, flow.restorable state event.now attempt.request = some token →
          token.accessToken ∈ rejected state.log → flow.isValid event.now token = false
    | .invalidate =>
      ∀ active, state.current = some active →
        state.calls.Holds (Phase.Undisturbed state active.token.accessToken)
    | _ => True

theorem Fresh.held {active : ActiveToken} (h : Fresh state active) : Held flow state active :=
  ⟨h.issued, h.agrees, fun hrejected => absurd hrejected h.accepted⟩

theorem Held.accepted {active : ActiveToken} (h : Held flow state active)
    (hvalid : flow.isValid state.clock active.token = true) :
    active.token.accessToken ∉ rejected state.log := by
  intro hrejected
  rw [h.spent hrejected] at hvalid
  cases hvalid

theorem is_valid_of_earlier {now later : ℕ} {token : OAuthStoredToken} (hlater : now ≤ later)
    (hspent : flow.isValid now token = false) : flow.isValid later token = false := by
  unfold isValid tokenIsValid at hspent ⊢
  rw [decide_eq_false_iff_not] at hspent ⊢
  omega

theorem is_valid_expired (now : ℕ) (token : OAuthStoredToken) :
    flow.isValid now { token with expiresAt := 0 } = false := by
  simp [isValid, tokenIsValid]

/-! ## What a step may change -/

/-- A state follows another: the clock goes on, tokens are issued, none is rejected, and what comes
into the store is not rejected. -/
structure Later (state next : FlowState) : Prop where
  clock : state.clock ≤ next.clock
  issued : state.issued ⊆ next.issued
  same : rejected next.log = rejected state.log
  tokens : ∀ binding token, next.tokens.lookup binding = some token →
    state.tokens.lookup binding = some token ∨ token.accessToken ∉ rejected state.log

theorem Later.of_same (hclock : next.clock = state.clock) (hissued : next.issued = state.issued)
    (hlog : next.log = state.log) (htokens : next.tokens = state.tokens) : Later state next where
  clock := hclock.ge
  issued := hissued ▸ fun _ hmem => hmem
  same := congrArg _ hlog
  tokens := fun _ _ hlookup => .inl (htokens ▸ hlookup)

section Later

variable {active : ActiveToken} (hlater : Later state next)

include hlater

theorem Agrees.later (h : Agrees state active) : Agrees next active := by
  intro stored hlookup hrejected
  rw [hlater.same] at hrejected
  obtain hkept | haccepted := hlater.tokens _ _ hlookup
  · exact h stored hkept hrejected
  · exact absurd hrejected haccepted

theorem Held.later (h : Held flow state active) : Held flow next active where
  issued := hlater.issued h.issued
  agrees := h.agrees.later hlater
  spent := by
    intro hrejected
    rw [hlater.same] at hrejected
    exact is_valid_of_earlier hlater.clock (h.spent hrejected)

theorem Fresh.later (h : Fresh state active) : Fresh next active where
  issued := hlater.issued h.issued
  agrees := h.agrees.later hlater
  accepted := by
    rw [hlater.same]
    exact h.accepted

theorem Phase.Fits.later {phase : Phase} (h : phase.Fits flow state) : phase.Fits flow next := by
  cases phase with
  | reloading _ _ | refreshing _ _ | restoring _ _ _ => exact Agrees.later hlater h
  | adopting _ _ | writing _ _ | removing _ _ => exact Fresh.later hlater h
  | resuming _ _ => exact Held.later hlater h
  | asked _ | waiting _ | clearing _ _ _ _ | discarding _ _ _ | discovering _ | selecting _
  | pending _ | authorizing _ | calledBack _ _ | exchanging _ => trivial

end Later

/-! ## Steps of a call -/

namespace Sound

variable {ticket : ℕ} {use : TokenUse} {active : ActiveToken} {report : Report} {phase : Phase}

theorem read (h : Sound flow state) {now : ℕ} (hnow : state.clock ≤ now) :
    Sound flow { state with clock := now } := by
  have hlater : Later state { state with clock := now } :=
    ⟨hnow, fun _ hmem => hmem, rfl, fun _ _ hlookup => .inl hlookup⟩
  exact
    { current := fun active hcurrent => (h.current active hcurrent).later hlater
      stored := h.stored
      known := h.known
      calls := h.calls.mono fun _ hfits => hfits.later hlater
      clean := h.clean }

theorem note (h : Sound flow state) (hclean : report.Clean state.log)
    (hrejects : report.rejects = none) :
    Sound flow { state with log := report :: state.log } := by
  have hsame : rejected (report :: state.log) = rejected state.log := by
    unfold rejected
    rw [List.filterMap_cons, hrejects]
  have hlater : Later state { state with log := report :: state.log } :=
    ⟨le_refl _, fun _ hmem => hmem, hsame, fun _ _ hlookup => .inl hlookup⟩
  exact
    { current := fun active hcurrent => (h.current active hcurrent).later hlater
      stored := h.stored
      known := fun accessToken hmem => h.known accessToken (hsame ▸ hmem)
      calls := h.calls.mono fun _ hfits => hfits.later hlater
      clean := List.pairwise_cons.2 ⟨fun _ hmem => hclean.reuses_eq_false hmem, h.clean⟩ }

theorem settle (h : Sound flow state) (hclean : report.Clean state.log)
    (hrejects : report.rejects = none) : Sound flow (state.settle ticket report) := by
  have hnoted := h.note hclean hrejects
  have hlater : Later { state with log := report :: state.log } (state.settle ticket report) :=
    .of_same rfl rfl rfl rfl
  exact
    { current := fun active hcurrent => (hnoted.current active hcurrent).later hlater
      stored := h.stored
      known := hnoted.known
      calls := (hnoted.calls.mono fun _ hfits => hfits.later hlater).finish
      clean := hnoted.clean }

theorem move (h : Sound flow state) (hfits : phase.Fits flow state) :
    Sound flow (state.move ticket phase) := by
  have hlater : Later state (state.move ticket phase) := .of_same rfl rfl rfl rfl
  exact
    { current := fun active hcurrent => (h.current active hcurrent).later hlater
      stored := h.stored
      known := h.known
      calls := (h.calls.become hfits).mono fun _ hfits => hfits.later hlater
      clean := h.clean }

theorem hand_out (h : Sound flow state) {accessToken : String}
    (haccepted : accessToken ∉ OAuthAuthorizationFlow.rejected state.log) :
    Sound flow (state.handOut ticket use accessToken) := by
  cases use with
  | caller => exact h.settle haccepted rfl
  | attempt _ => exact h.settle haccepted rfl
  | callback => exact h.settle trivial rfl

theorem fail (h : Sound flow state) (error : OAuthClientError) :
    Sound flow (state.fail ticket use error) := by
  unfold FlowState.fail
  split
  next => exact h.move trivial
  next => exact h.settle trivial rfl

theorem write (h : Sound flow state) (hheld : Held flow state active) :
    Sound flow { state with current := some active } := by
  have hlater : Later state { state with current := some active } := .of_same rfl rfl rfl rfl
  exact
    { current := fun other hcurrent => Option.some.inj hcurrent ▸ hheld.later hlater
      stored := h.stored
      known := h.known
      calls := h.calls.mono fun _ hfits => hfits.later hlater
      clean := h.clean }

theorem clear (h : Sound flow state) : Sound flow { state with current := none } := by
  have hlater : Later state { state with current := none } := .of_same rfl rfl rfl rfl
  exact
    { current := nofun
      stored := h.stored
      known := h.known
      calls := h.calls.mono fun _ hfits => hfits.later hlater
      clean := h.clean }

theorem follow (h : Sound flow state) (hlater : Later state next)
    (hcurrent : next.current = state.current) (hcalls : next.calls = state.calls)
    (hlog : next.log = state.log)
    (hstored : ∀ binding token, next.tokens.lookup binding = some token →
      token.accessToken ∈ next.issued) : Sound flow next where
  current := by
    rw [hcurrent]
    exact fun active hactive => (h.current active hactive).later hlater
  stored := hstored
  known := by
    rw [hlog]
    exact fun accessToken hmem => hlater.issued (h.known accessToken hmem)
  calls := by
    rw [hcalls]
    exact h.calls.mono fun _ hfits => hfits.later hlater
  clean := by
    unfold NotReused
    rw [hlog]
    exact h.clean

theorem discard (h : Sound flow state) (binding : OAuthTokenBinding)
    (outcome : Fallible.Outcome OAuthClientError) :
    Sound flow
      { state with
        tokens := outcome.write (fun tokens => tokens.erase binding) state.tokens } := by
  have hkept : ∀ other token,
      (outcome.write (fun tokens => tokens.erase binding) state.tokens).lookup other =
          some token → state.tokens.lookup other = some token := by
    intro other token hlookup
    obtain ⟨_, hwrite⟩ | ⟨_, hwrite⟩ :=
      outcome.write_cases (fun tokens => tokens.erase binding) state.tokens
    · rw [hwrite, FinMap.lookup_erase_eq_ite] at hlookup
      exact (Option.ite_none_left_eq_some.1 hlookup).2
    · rw [hwrite] at hlookup
      exact hlookup
  refine h.follow ⟨le_refl _, fun _ hmem => hmem, rfl, ?_⟩ rfl rfl rfl ?_
  · exact fun other token hlookup => .inl (hkept other token hlookup)
  · exact fun other token hlookup => h.stored other token (hkept other token hlookup)

theorem issue (h : Sound flow state) {save : Fallible.Outcome OAuthClientError}
    (hissue : state.issue ticket use active save phase = some next)
    (hfits : ∀ later, Fresh later active → phase.Fits flow later) : Sound flow next := by
  obtain ⟨hnew, hrest⟩ := Option.ite_none_left_eq_some.1 hissue
  have haccepted : active.token.accessToken ∉ OAuthAuthorizationFlow.rejected state.log :=
    fun hrejected => hnew (h.known _ hrejected)
  have hstored : ∀ binding token,
      (save.write (fun tokens => tokens.insert active.binding active.token) state.tokens).lookup
          binding = some token → token = active.token ∨ state.tokens.lookup binding = some token := by
    intro binding token hlookup
    obtain ⟨_, hwrite⟩ | ⟨_, hwrite⟩ :=
      save.write_cases (fun tokens => tokens.insert active.binding active.token) state.tokens
    · rw [hwrite, FinMap.lookup_insert_eq_ite] at hlookup
      split at hlookup
      next => exact .inl (Option.some.inj hlookup).symm
      next => exact .inr hlookup
    · rw [hwrite] at hlookup
      exact .inr hlookup
  have hsaved : Sound flow
      { state with
        issued := active.token.accessToken :: state.issued
        tokens := save.write (fun tokens => tokens.insert active.binding active.token)
          state.tokens } := by
    refine h.follow ⟨le_refl _, List.subset_cons_self _ _, rfl, ?_⟩ rfl rfl rfl ?_
    · intro binding token hlookup
      obtain rfl | hkept := hstored binding token hlookup
      · exact .inr haccepted
      · exact .inl hkept
    · intro binding token hlookup
      obtain rfl | hkept := hstored binding token hlookup
      · exact List.mem_cons_self
      · exact List.mem_cons_of_mem _ (h.stored binding token hkept)
  cases save with
  | refused error =>
    cases hrest
    exact hsaved.fail error
  | lost error =>
    cases hrest
    exact hsaved.fail error
  | done =>
    cases hrest
    refine hsaved.move (hfits _ ⟨List.mem_cons_self, ?_, haccepted⟩)
    intro stored hlookup hrejected
    simp only [Fallible.Outcome.write_done, FinMap.lookup_insert_eq_ite, if_pos] at hlookup
    cases hlookup
    rfl

theorem states (h : Sound flow state) (states : FinMap String OAuthPendingAuthorizationState) :
    Sound flow { state with states } :=
  h.follow (.of_same rfl rfl rfl rfl) rfl rfl rfl h.stored

theorem accepted_of_valid (h : Sound flow state)
    (hvalid : flow.validToken state state.clock = some active) :
    active.token.accessToken ∉ OAuthAuthorizationFlow.rejected state.log := by
  obtain ⟨hcurrent, hvalid⟩ := Option.filter_eq_some_iff.1 hvalid
  exact (h.current active hcurrent).accepted hvalid

theorem fresh_of_adoptable (h : Sound flow state) (hagrees : Agrees state active) {now : ℕ}
    {stored : OAuthStoredToken} (hadoptable : flow.adoptable state now active = some stored) :
    Fresh state { active with token := stored } := by
  obtain ⟨hlookup, hdiffers⟩ := Option.filter_eq_some_iff.1 hadoptable
  refine ⟨h.stored _ _ hlookup, ?_, ?_⟩
  · intro other hother _
    rw [Option.some.inj (hlookup.symm.trans hother)]
  · intro hrejected
    have hsame := hagrees stored hlookup hrejected
    simp [tokensDiffer, hsame] at hdiffers

theorem reload (h : Sound flow state) (hagrees : Agrees state active) (now : ℕ) :
    Sound flow (flow.reload state now ticket active use) := by
  unfold OAuthAuthorizationFlow.reload
  split
  next stored hadoptable => exact h.move (h.fresh_of_adoptable hagrees hadoptable)
  next =>
    split
    next => exact h.move hagrees
    next => exact h.fail _

theorem restore (h : Sound flow state) (hagrees : Agrees state active) (now : ℕ)
    (message : String) : Sound flow (flow.restore state now ticket active use message) := by
  unfold OAuthAuthorizationFlow.restore
  split
  next stored hadoptable => exact h.move (h.fresh_of_adoptable hagrees hadoptable)
  next => exact h.move trivial

theorem select (h : Sound flow state) {attempt : Attempt}
    (hmeets : ∀ token, flow.restorable state state.clock attempt.request = some token →
      token.accessToken ∈ OAuthAuthorizationFlow.rejected state.log →
        flow.isValid state.clock token = false) :
    Sound flow (flow.select state state.clock ticket attempt) := by
  unfold OAuthAuthorizationFlow.select
  split
  next token hrestorable =>
    obtain ⟨hlookup, hcovered⟩ := Option.filter_eq_some_iff.1 hrestorable
    have hheld : Held flow state ⟨attempt.request.binding, token⟩ := by
      refine ⟨h.stored _ _ hlookup, ?_, hmeets token hrestorable⟩
      intro other hother _
      rw [Option.some.inj (hlookup.symm.trans hother)]
    have hclean : (Report.restored token).Clean state.log := by
      intro hrejected
      have hspent := hmeets token hrestorable hrejected
      simpa [hspent] using (Bool.and_eq_true_iff.1 hcovered).2
    have hmoved : Sound flow
        (state.move ticket (.resuming ⟨attempt.request.binding, token⟩ attempt)) :=
      h.move hheld
    exact hmoved.note hclean rfl
  next => exact h.move trivial

theorem exchange (h : Sound flow state) (url : String) (expected : Option String)
    (failure : Option OAuthClientError) :
    Sound flow (flow.exchange state ticket url expected failure) := by
  unfold OAuthAuthorizationFlow.exchange
  split
  next => exact h.settle trivial rfl
  next =>
    split
    next => exact h.settle trivial rfl
    next =>
      split
      next => exact h.settle trivial rfl
      next => exact h.settle trivial rfl
      next =>
        split
        next => exact h.settle trivial rfl
        next => exact h.settle trivial rfl
        next => exact h.move trivial

theorem advance (h : Sound flow state) {input : Input} (hfits : phase.Fits flow state)
    (hmeets : ∀ attempt, phase = .selecting attempt → input = .loaded none →
      ∀ token, flow.restorable state state.clock attempt.request = some token →
        token.accessToken ∈ OAuthAuthorizationFlow.rejected state.log →
          flow.isValid state.clock token = false)
    (hadvance : flow.advance state state.clock ticket phase input = some next) :
    Sound flow next := by
  unfold OAuthAuthorizationFlow.advance at hadvance
  split at hadvance
  next use =>
    -- `asked`
    split at hadvance
    next active hvalid =>
      cases hadvance
      exact h.hand_out (h.accepted_of_valid hvalid)
    next =>
      cases hadvance
      exact h.move trivial
  next use =>
    -- `waiting`
    obtain ⟨_, hadvance⟩ := Option.ite_none_left_eq_some.1 hadvance
    split at hadvance
    next active hvalid =>
      cases hadvance
      exact h.hand_out (h.accepted_of_valid hvalid)
    next active _ hcurrent =>
      cases hadvance
      exact h.move (h.current active hcurrent).agrees
    next =>
      cases hadvance
      exact h.fail _
  next =>
    cases hadvance
    exact h.fail _
  next =>
    -- `reloading`
    cases hadvance
    exact h.reload hfits _
  next =>
    -- `adopting`
    cases hadvance
    exact (h.write hfits.held).hand_out hfits.accepted
  next =>
    -- `writing`
    cases hadvance
    exact (h.write hfits.held).hand_out hfits.accepted
  next =>
    -- `refreshing`
    cases hadvance
    exact h.move hfits
  next =>
    cases hadvance
    exact h.fail _
  next =>
    split at hadvance
    next =>
      cases hadvance
      exact h.fail _
    next => exact h.issue hadvance fun _ hfresh => hfresh
  next =>
    -- `restoring`
    cases hadvance
    exact h.fail _
  next =>
    cases hadvance
    exact h.restore hfits _ _
  next =>
    -- `clearing`
    split at hadvance
    next =>
      cases hadvance
      exact h.clear.move trivial
    next =>
      cases hadvance
      exact h.clear.fail _
  next binding _ _ outcome =>
    -- `discarding`
    split at hadvance
    next =>
      cases hadvance
      exact (h.discard binding outcome).fail _
    next =>
      cases hadvance
      exact (h.discard binding outcome).fail _
  next =>
    -- `discovering`
    cases hadvance
    exact h.settle trivial rfl
  next =>
    cases hadvance
    exact h.move trivial
  next =>
    -- `selecting`
    cases hadvance
    exact h.settle trivial rfl
  next attempt =>
    cases hadvance
    exact h.select (hmeets attempt rfl rfl)
  next active attempt =>
    -- `resuming`
    have hheld : Held flow state active := hfits
    split at hadvance
    next hvalid =>
      cases hadvance
      exact (h.write hheld).settle (hheld.accepted hvalid) rfl
    next =>
      cases hadvance
      exact (h.write hheld).move trivial
  next attempt outcome =>
    -- `pending`
    split at hadvance
    next =>
      cases hadvance
      exact (h.states _).settle trivial rfl
    next =>
      split at hadvance
      next =>
        cases hadvance
        exact (h.states _).move trivial
      next =>
        cases hadvance
        exact (h.states _).settle trivial rfl
  next =>
    -- `authorizing`
    cases hadvance
    exact h.settle trivial rfl
  next =>
    cases hadvance
    exact h.move trivial
  next =>
    -- `calledBack`
    cases hadvance
    exact h.exchange _ _ _
  next =>
    -- `exchanging`
    cases hadvance
    exact h.settle trivial rfl
  next =>
    split at hadvance
    next =>
      cases hadvance
      exact h.settle trivial rfl
    next => exact h.issue hadvance fun _ hfresh => hfresh
  next active key outcome =>
    -- `removing`
    have hlater : Later state
        { state with states := outcome.write (fun states => states.erase key) state.states } :=
      .of_same rfl rfl rfl rfl
    have hfresh : Fresh state active := hfits
    split at hadvance
    next =>
      cases hadvance
      exact (h.states _).settle trivial rfl
    next =>
      cases hadvance
      exact (h.states _).move (hfresh.later hlater)
  next => cases hadvance

theorem start (h : Sound flow state) (hfits : ∀ later, phase.Fits flow later) :
    Sound flow (state.start phase) := by
  have hlater : Later state (state.start phase) := .of_same rfl rfl rfl rfl
  exact
    { current := fun active hcurrent => (h.current active hcurrent).later hlater
      stored := h.stored
      known := h.known
      calls := (h.calls.mono fun _ hfits => hfits.later hlater).start (hfits _)
      clean := h.clean }

theorem fits_of_undisturbed {current : Option ActiveToken} {accessToken : String}
    (hfits : phase.Fits flow state) (hundisturbed : phase.Undisturbed state accessToken) :
    phase.Fits flow
      { state with current, log := .invalidated accessToken :: state.log } := by
  have hagrees : ∀ active, Agrees state active →
      (∀ stored, state.tokens.lookup active.binding = some stored →
        stored.accessToken = accessToken → active.token.accessToken = accessToken) →
      Agrees { state with current, log := .invalidated accessToken :: state.log } active := by
    intro active hagrees hown stored hlookup hrejected
    obtain heq | hrejected := List.mem_cons.1 hrejected
    · rw [heq]
      exact hown stored hlookup heq
    · exact hagrees stored hlookup hrejected
  cases phase with
  | reloading active _ | refreshing active _ | restoring active _ _ =>
    exact hagrees active hfits hundisturbed
  | adopting active _ | writing active _ | removing active _ =>
    obtain ⟨hother, hstored⟩ := hundisturbed
    refine ⟨hfits.issued, hagrees active hfits.agrees ?_, ?_⟩
    · exact fun stored hlookup heq => absurd heq (hstored stored hlookup)
    · exact fun hrejected => (List.mem_cons.1 hrejected).elim hother hfits.accepted
  | resuming active _ =>
    have hheld : Held flow state active := hfits
    obtain ⟨hother, hstored⟩ := hundisturbed
    refine ⟨hheld.issued, hagrees active hheld.agrees ?_, ?_⟩
    · exact fun stored hlookup heq => absurd heq (hstored stored hlookup)
    · exact fun hrejected => hheld.spent ((List.mem_cons.1 hrejected).resolve_left hother)
  | asked _ | waiting _ | clearing _ _ _ _ | discarding _ _ _ | discovering _ | selecting _
  | pending _ | authorizing _ | calledBack _ _ | exchanging _ => trivial

theorem invalidate (h : Sound flow state)
    (hundisturbed : ∀ active, state.current = some active →
      state.calls.Holds (Phase.Undisturbed state active.token.accessToken)) :
    Sound flow state.invalidate := by
  unfold FlowState.invalidate
  split
  next => exact h
  next active hcurrent =>
    have hheld := h.current active hcurrent
    refine
      { current := ?_
        stored := h.stored
        known := List.forall_mem_cons.2 ⟨hheld.issued, h.known⟩
        calls := fun ticket phase hget =>
          fits_of_undisturbed (h.calls ticket phase hget)
            (hundisturbed active hcurrent ticket phase hget)
        clean := List.pairwise_cons.2 ⟨fun _ _ => rfl, h.clean⟩ }
    rintro _ ⟨⟩
    refine ⟨hheld.issued, ?_, fun _ => ?_⟩
    · intro stored hlookup hrejected
      obtain heq | hrejected := List.mem_cons.1 hrejected
      · exact heq.symm
      · exact hheld.agrees stored hlookup hrejected
    · exact is_valid_expired state.clock active.token

theorem step (h : Sound flow state) {event : Event} (hmeets : Meets flow state event)
    (hstep : OAuthAuthorizationFlow.step flow state event = some next) : Sound flow next := by
  obtain ⟨now, action⟩ := event
  obtain ⟨hclock, hmeets⟩ := hmeets
  have hread := h.read hclock
  cases action with
  | getToken =>
    cases hstep
    exact hread.start fun _ => trivial
  | invalidate =>
    cases hstep
    exact hread.invalidate hmeets
  | begin =>
    cases hstep
    exact hread.start fun _ => trivial
  | completeCallbackUrl url expected =>
    cases hstep
    exact hread.start fun _ => trivial
  | reauthorize resource =>
    unfold OAuthAuthorizationFlow.step at hstep
    dsimp only at hstep
    split at hstep
    next =>
      cases hstep
      exact hread.note trivial rfl
    next =>
      cases hstep
      exact hread.start fun _ => trivial
  | advance ticket input =>
    unfold OAuthAuthorizationFlow.step at hstep
    dsimp only at hstep
    split at hstep
    next phase hget =>
      refine hread.advance (hread.calls ticket phase hget) ?_ hstep
      rintro attempt rfl rfl
      exact hmeets attempt hget
    next => cases hstep

end Sound

/-! ## Runs -/

def FlowState.over (tokens : FinMap OAuthTokenBinding OAuthStoredToken) : FlowState where
  tokens := tokens
  issued := tokens.values.map (·.accessToken)

theorem sound_over (flow : OAuthAuthorizationFlow)
    (tokens : FinMap OAuthTokenBinding OAuthStoredToken) : Sound flow (.over tokens) where
  current := nofun
  stored := fun _ _ hlookup =>
    List.mem_map_of_mem (FinMap.mem_values_of_lookup hlookup)
  known := List.forall_mem_nil _
  calls := Pool.holds_empty
  clean := List.Pairwise.nil

/-- In every run whose steps meet the condition, no token is handed out once it was invalidated, and
no attempt takes up such a token that has no refresh token. -/
theorem rejected_not_reused (flow : OAuthAuthorizationFlow)
    (tokens : FinMap OAuthTokenBinding OAuthStoredToken) {events : List Event}
    (halong : Along (step flow) (Meets flow) (.over tokens) events) :
    Throughout (step flow) NotReused (.over tokens) events := by
  have hkeeps : ∀ before event after, Sound flow before → Meets flow before event →
      step flow before event = some after → Sound flow after :=
    fun _ _ _ h => h.step
  have hsound := throughout_of_along hkeeps (sound_over flow tokens) halong
  exact hsound.mono fun _ h => h.clean

/-! ## Two runs -/

instance (state : FlowState) : Decidable (NotReused state) :=
  inferInstanceAs (Decidable (List.Pairwise _ _))

def plainFlow : OAuthAuthorizationFlow where
  resourceUrl := "https://mcp.example.com"
  parseCallbackUrl := fun url => .ok { code := "code", state := url, issuer := none }
  validateCallbackTarget := fun _ _ => .ok ()

def plainRequest : OAuthPendingAuthorizationState where
  state := "state"
  redirectUri := "http://127.0.0.1/callback"
  resource := "https://mcp.example.com"
  issuer := "https://auth.example.com"
  clientId := "client"
  scopes := ["mcp:read"]
  issRequired := false

def atOnce (actions : List Action) : List Event :=
  actions.map fun action => ⟨1000, action⟩

def authorization : List Action :=
  [.begin, .advance 0 (.discovered (.ok plainRequest)), .advance 0 (.loaded none),
    .advance 0 (.wrote .done),
    .completeCallbackUrl "state" none, .advance 1 (.loaded none),
    .advance 1 (.responded (.ok { accessToken := "first", tokenType := "Bearer" }) .done),
    .advance 1 (.wrote .done), .advance 1 .proceed]

def rejection : List Action :=
  [.getToken, .advance 2 .proceed, .invalidate,
    .getToken, .advance 3 .proceed, .advance 3 .proceed, .advance 3 (.loaded none),
    .begin, .advance 4 (.discovered (.ok plainRequest)), .advance 4 (.loaded none),
    .advance 4 .proceed, .getToken, .advance 5 .proceed]

theorem log_of_rejection :
    ((run (step plainFlow) (.over ∅) (atOnce (authorization ++ rejection))).map
        fun final => final.log) =
      some [.returned "first", .authorized "first",
        .restored { accessToken := "first", expiresAt := unixTimeMax, scopes := ["mcp:read"] },
        .failed (.tokenRequest
          ("OAuth access token expired and no refresh token is available; call authorize() " ++
            "or begin() again to reauthorize")),
        .invalidated "first", .returned "first", .completed, .pending "state"] := by
  decide +kernel

/-- The next `begin` takes the rejected token up from the store, and `get_token` returns it. -/
theorem rejected_reused :
    ∃ final, run (step plainFlow) (.over ∅) (atOnce (authorization ++ rejection)) =
        some final ∧ ¬NotReused final := by
  obtain ⟨final, hrun, hlog⟩ := Option.map_eq_some_iff.1 log_of_rejection
  refine ⟨final, hrun, ?_⟩
  unfold NotReused
  rw [hlog]
  decide

theorem rejected_not_reused_once :
    Throughout (step plainFlow) NotReused
      (.over (AList.insert plainRequest.binding ⟨"first", none, unixTimeMax, ["mcp:read"]⟩ ∅))
      (atOnce [.begin, .advance 0 (.discovered (.ok plainRequest)), .advance 0 (.loaded none),
        .advance 0 .proceed, .invalidate, .getToken, .advance 1 .proceed]) := by
  have hclock : 1000 ≤ 1000 := le_refl _
  refine rejected_not_reused plainFlow _
    ⟨⟨Nat.zero_le _, trivial⟩, ⟨hclock, trivial⟩, ⟨hclock, ?_⟩, ⟨hclock, trivial⟩,
      ⟨hclock, ?_⟩, ⟨hclock, trivial⟩, ⟨hclock, trivial⟩, trivial⟩
  · intro attempt _ token _ hrejected
    cases hrejected
  · intro active _ ticket phase hget
    cases hget

end OAuthAuthorizationFlow

end TowerMcp
