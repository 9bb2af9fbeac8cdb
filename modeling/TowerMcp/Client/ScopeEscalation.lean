import TowerMcp.Client.Challenges

/-!
# Scope escalation

How the requests of an HTTP client answer challenges that ask for more scopes: `send_http_request`
of `client/http.rs` and the runtime that its operations share. Any number of operations overlap,
each between its accesses to the runtime, to the token provider and to the server.
-/

namespace TowerMcp

open Pool Execution

structure OAuthScopeEscalationConfig where
  initialScopes : List String := []
  maxAttempts : ℕ := 2

def OAuthScopeEscalationConfig.new (scopes : List String) : OAuthScopeEscalationConfig where
  initialScopes := OAuthBearerChallenge.uniqueScopes (scopes.flatMap splitAsciiWhitespace)

structure OAuthScopeEscalationRequest where
  resource : String
  operation : String
  challenge : OAuthScopeChallenge
  previousScopes : List String
  requestedScopes : List String
  attempt : ℕ
deriving DecidableEq

structure ScopeEscalationState where
  scopes : List String
  revision : ℕ := 0

namespace ScopeEscalation

/-- The transport: its URL, whether it has a token provider, its policy if it escalates, and how a
text is made a header value. -/
structure Transport where
  url : String
  tokenProvider : Bool
  scopeEscalation : Option OAuthScopeEscalationConfig
  headerValue : String → Option String

def Transport.maxAttempts (transport : Transport) : ℕ :=
  (transport.scopeEscalation.map fun config => config.maxAttempts).getD 0

/-- What is read of a response: its status and its `WWW-Authenticate` headers that are texts. -/
structure Response where
  status : ℕ
  wwwAuthenticate : List String := []

def scopeChallenge (response : Response) : Option OAuthScopeChallenge :=
  response.wwwAuthenticate.findSome? OAuthScopeChallenge.fromWwwAuthenticate

def bearerChallenge (response : Response) : Option OAuthBearerChallenge :=
  response.wwwAuthenticate.findSome? OAuthBearerChallenge.fromWwwAuthenticate

structure Operation where
  name : String
  clones : Bool := true

/-- Where the loop of an operation is: the revision it has read, how many challenges it has
answered, and whether it has replaced a rejected token. -/
structure Attempt where
  operation : Operation
  observed : ℕ
  attempts : ℕ := 0
  reauthenticated : Bool := false

/-- Where an operation is. It is `reading` the revision, and `acquiring` its first token; with that
its request is `sending`. When the token is rejected it is `invalidating` that and `reacquiring`
one. When it is `challenged` it waits for the lock of the runtime, with which it is `reauthorizing`,
unless another has done that; then it is `renewing` its token. -/
inductive Phase where
  | reading (operation : Operation)
  | acquiring (operation : Operation) (observed : ℕ)
  | sending (attempt : Attempt)
  | invalidating (attempt : Attempt)
  | reacquiring (attempt : Attempt)
  | challenged (attempt : Attempt) (challenge : OAuthScopeChallenge)
  | reauthorizing (attempt : Attempt) (request : OAuthScopeEscalationRequest)
  | renewing (attempt : Attempt)

def Phase.isReauthorizing : Phase → Bool
  | .reauthorizing _ _ => true
  | _ => false

/-- What an operation goes on with: nothing but its turn, the response to its request, a token, or
the end of a reauthorization. -/
inductive Input where
  | proceed
  | responded (result : Except String Response)
  | acquired (result : Except OAuthClientError String)
  | reauthorized (result : Except OAuthClientError Unit)

/-- What can be seen of the operations: one reads the revision, sends its request, starts or
finishes a reauthorization, and returns or fails. -/
inductive Report where
  | read (ticket : ℕ)
  | sent (ticket : ℕ)
  | started (ticket : ℕ) (request : OAuthScopeEscalationRequest)
  | finished (ticket : ℕ) (requestedScopes : List String)
  | returned (ticket : ℕ) (status : ℕ)
  | failed (ticket : ℕ) (message : String)
deriving DecidableEq

structure System where
  state : ScopeEscalationState
  calls : Pool Phase := {}
  log : List Report := []

namespace System

variable (self : System)

def move (ticket : ℕ) (phase : Phase) : System :=
  { self with calls := self.calls.become ticket phase }

def note (report : Report) : System :=
  { self with log := report :: self.log }

def settle (ticket : ℕ) (report : Report) : System :=
  { self with calls := self.calls.finish ticket, log := report :: self.log }

def isLocked : Bool :=
  self.calls.any Phase.isReauthorizing

def send (ticket : ℕ) (attempt : Attempt) : System :=
  (self.move ticket (.sending attempt)).note (.sent ticket)

end System

section Steps

variable (transport : Transport) (self : System) (ticket : ℕ)

def sendWith (attempt : Attempt) (result : Except OAuthClientError String) (message : String) :
    System :=
  match result with
  | .error _ => self.settle ticket (.failed ticket message)
  | .ok token =>
    match transport.headerValue ("Bearer " ++ token) with
    | none => self.settle ticket (.failed ticket message)
    | some _ => self.send ticket attempt

def respond (attempt : Attempt) (response : Response) : System :=
  if response.status = 401 ∧ attempt.reauthenticated = false ∧
      (bearerChallenge response).isSome ∧ transport.tokenProvider = true ∧
      attempt.operation.clones = true then
    self.move ticket (.invalidating { attempt with reauthenticated := true })
  else
    match if response.status = 403 then scopeChallenge response else none with
    | none => self.settle ticket (.returned ticket response.status)
    | some challenge =>
      match transport.scopeEscalation with
      | none => self.settle ticket (.returned ticket response.status)
      | some config =>
        if transport.tokenProvider = false ∨ attempt.operation.clones = false ∨
            config.maxAttempts ≤ attempt.attempts then
          self.settle ticket (.returned ticket response.status)
        else
          self.move ticket
            (.challenged { attempt with attempts := attempt.attempts + 1 } challenge)

def requestedScopes (previous : List String) (challenge : OAuthScopeChallenge) : List String :=
  challenge.requiredScopes.foldl
    (fun requested scope => if scope ∈ requested then requested else requested ++ [scope]) previous

def respondToChallenge (attempt : Attempt) (challenge : OAuthScopeChallenge) : System :=
  let requested := requestedScopes self.state.scopes challenge
  if requested = self.state.scopes ∧ attempt.observed < self.state.revision then
    (self.move ticket (.renewing { attempt with observed := self.state.revision })).note
      (.read ticket)
  else
    let request : OAuthScopeEscalationRequest :=
      { resource := transport.url
        operation := attempt.operation.name
        challenge := challenge
        previousScopes := self.state.scopes
        requestedScopes := requested
        attempt := attempt.attempts }
    (self.move ticket (.reauthorizing attempt request)).note (.started ticket request)

def finish (attempt : Attempt) (request : OAuthScopeEscalationRequest) : System :=
  let finished := { self with
    state := { scopes := request.requestedScopes, revision := self.state.revision + 1 } }
  ((finished.move ticket
    (.renewing { attempt with observed := self.state.revision + 1 })).note
      (.finished ticket request.requestedScopes)).note (.read ticket)

def start (operation : Operation) : System :=
  let observed := if transport.scopeEscalation.isSome then self.state.revision else 0
  if transport.tokenProvider = true then
    (self.move ticket (.acquiring operation observed)).note (.read ticket)
  else (self.note (.read ticket)).send ticket { operation, observed }

def advance : Phase → Input → Option System
  | .reading operation, .proceed =>
    if transport.scopeEscalation.isSome ∧ self.isLocked = true then none
    else some (start transport self ticket operation)
  | .acquiring operation observed, .acquired result =>
    some (sendWith transport self ticket { operation, observed } result "Token provider failed")
  | .sending _, .responded (.error message) =>
    some (self.settle ticket (.failed ticket message))
  | .sending attempt, .responded (.ok response) =>
    some (respond transport self ticket attempt response)
  | .invalidating attempt, .proceed => some (self.move ticket (.reacquiring attempt))
  | .reacquiring attempt, .acquired result | .renewing attempt, .acquired result =>
    some (sendWith transport self ticket attempt result "OAuth token acquisition failed")
  | .challenged attempt challenge, .proceed =>
    if self.isLocked = true then none
    else some (respondToChallenge transport self ticket attempt challenge)
  | .reauthorizing _ _, .reauthorized (.error _) =>
    some (self.settle ticket (.failed ticket "OAuth token acquisition failed"))
  | .reauthorizing attempt request, .reauthorized (.ok _) =>
    some (finish self ticket attempt request)
  | _, _ => none

end Steps

inductive Event where
  | start (operation : Operation)
  | advance (ticket : ℕ) (input : Input)
  | drop (ticket : ℕ)

def step (transport : Transport) (self : System) : Event → Option System
  | .start operation => some { self with calls := self.calls.start (.reading operation) }
  | .advance ticket input =>
    match self.calls.get ticket with
    | some phase => advance transport self ticket phase input
    | none => none
  | .drop ticket => some { self with calls := self.calls.finish ticket }

def initial (transport : Transport) : System where
  state.scopes := (transport.scopeEscalation.map fun config => config.initialScopes).getD []

/-! ## What must hold -/

def Report.ticket : Report → ℕ
  | .read ticket | .sent ticket | .started ticket _ | .finished ticket _ | .returned ticket _
  | .failed ticket _ => ticket

def Report.finishes : Report → Bool
  | .finished _ _ => true
  | _ => false

def sinceRead (ticket : ℕ) (log : List Report) : List Report :=
  log.takeWhile fun report => report != .read ticket

/-- A reauthorization may start while none that has finished since the operation read the revision
has asked for the scopes of its challenge. -/
def Report.Justified (earlier : List Report) : Report → Prop
  | .started ticket request =>
    ∀ other requested, .finished other requested ∈ sinceRead ticket earlier →
      ¬request.challenge.requiredScopes ⊆ requested
  | _ => True

def Coalesced : List Report → Prop
  | [] => True
  | report :: earlier => report.Justified earlier ∧ Coalesced earlier

def sends (ticket : ℕ) (log : List Report) : ℕ :=
  log.count (.sent ticket)

def Exclusive (self : System) : Prop :=
  ∀ first second, (self.calls.get first).any Phase.isReauthorizing = true →
    (self.calls.get second).any Phase.isReauthorizing = true → first = second

def Event.advances (ticket : ℕ) : Event → Bool
  | .advance other _ => other == ticket
  | _ => false

def Attempt.rank (bound : ℕ) (self : Attempt) : ℕ :=
  4 * (bound - self.attempts) + (if self.reauthenticated then 0 else 3) + 1

def Phase.rank (bound : ℕ) : Phase → ℕ
  | .reading _ => 4 * bound + 6
  | .acquiring _ _ => 4 * bound + 5
  | .sending attempt => attempt.rank bound
  | .invalidating attempt => attempt.rank bound + 2
  | .reacquiring attempt | .renewing attempt => attempt.rank bound + 1
  | .challenged attempt _ => attempt.rank bound + 3
  | .reauthorizing attempt _ => attempt.rank bound + 2

/-! ## The reports since a revision was read -/

section Reports

variable {ticket other : ℕ} {log : List Report} {report : Report}

@[simp] theorem since_read_self : sinceRead ticket (.read ticket :: log) = [] := by
  simp [sinceRead]

theorem since_read_cons (hother : report ≠ .read ticket) :
    sinceRead ticket (report :: log) = report :: sinceRead ticket log := by
  simp [sinceRead, hother]

theorem mem_of_since_read (hmem : report ∈ sinceRead ticket log) : report ∈ log :=
  (List.takeWhile_sublist _).mem hmem

@[simp] theorem sends_sent : sends ticket (.sent ticket :: log) = sends ticket log + 1 := by
  simp [sends]

theorem sends_cons (hother : report ≠ .sent ticket) :
    sends ticket (report :: log) = sends ticket log := by
  simp [sends, hother]

end Reports

/-! ## Steps of an operation -/

variable {transport : Transport} {self next : System} {ticket : ℕ} {phase : Phase}

def Phase.attempt : Phase → Option Attempt
  | .reading _ => none
  | .acquiring operation observed => some { operation, observed }
  | .sending attempt | .invalidating attempt | .reacquiring attempt | .challenged attempt _
  | .reauthorizing attempt _ | .renewing attempt => some attempt

def Phase.resends : Phase → Option Attempt
  | .acquiring operation observed => some { operation, observed }
  | .reacquiring attempt | .renewing attempt => some attempt
  | _ => none

inductive Quiet (transport : Transport) : Phase → Phase → Prop
  | invalidates (attempt : Attempt) (hfirst : attempt.reauthenticated = false) :
      Quiet transport (.sending attempt) (.invalidating { attempt with reauthenticated := true })
  | reacquires (attempt : Attempt) : Quiet transport (.invalidating attempt) (.reacquiring attempt)
  | challenges (attempt : Attempt) (challenge : OAuthScopeChallenge)
      (hescalates : transport.scopeEscalation.isSome = true)
      (hbelow : attempt.attempts < transport.maxAttempts) :
      Quiet transport (.sending attempt)
        (.challenged { attempt with attempts := attempt.attempts + 1 } challenge)

inductive Turn (transport : Transport) (self : System) (ticket : ℕ) : Phase → System → Prop
  | ended (phase : Phase) (status : ℕ) :
      Turn transport self ticket phase (self.settle ticket (.returned ticket status))
  | failed (phase : Phase) (message : String) :
      Turn transport self ticket phase (self.settle ticket (.failed ticket message))
  | read (operation : Operation) :
      Turn transport self ticket (.reading operation) (start transport self ticket operation)
  | sent (phase : Phase) (attempt : Attempt) (hresends : phase.resends = some attempt) :
      Turn transport self ticket phase (self.send ticket attempt)
  | moved (phase after : Phase) (hquiet : Quiet transport phase after) :
      Turn transport self ticket phase (self.move ticket after)
  | answered (attempt : Attempt) (challenge : OAuthScopeChallenge)
      (hfree : self.isLocked = false) :
      Turn transport self ticket (.challenged attempt challenge)
        (respondToChallenge transport self ticket attempt challenge)
  | finished (attempt : Attempt) (request : OAuthScopeEscalationRequest) :
      Turn transport self ticket (.reauthorizing attempt request)
        (finish self ticket attempt request)

variable {attempt : Attempt}

theorem turn_of_send_with {result : Except OAuthClientError String} {message : String}
    (hresends : phase.resends = some attempt) :
    Turn transport self ticket phase
      (sendWith transport self ticket attempt result message) := by
  unfold sendWith
  split
  next => exact .failed _ _
  next =>
    split
    next => exact .failed _ _
    next => exact .sent _ _ hresends

theorem turn_of_respond (attempt : Attempt) (response : Response) :
    Turn transport self ticket (.sending attempt)
      (respond transport self ticket attempt response) := by
  unfold respond
  split
  next hrejected => exact .moved _ _ (.invalidates attempt hrejected.2.1)
  next =>
    split
    next => exact .ended _ _
    next challenge _ =>
      split
      next => exact .ended _ _
      next config hconfig =>
        split
        next => exact .ended _ _
        next hallowed =>
          have hmax : transport.maxAttempts = config.maxAttempts := by
            simp [Transport.maxAttempts, hconfig]
          refine .moved _ _ (.challenges attempt challenge (by simp [hconfig]) ?_)
          rw [hmax]
          by_contra hnot
          exact hallowed (.inr (.inr (Nat.not_lt.1 hnot)))

theorem turn_of_advance {input : Input}
    (hadvance : advance transport self ticket phase input = some next) :
    Turn transport self ticket phase next := by
  unfold advance at hadvance
  split at hadvance
  next operation =>
    obtain ⟨_, hadvance⟩ := Option.ite_none_left_eq_some.1 hadvance
    cases hadvance
    exact .read operation
  next =>
    cases hadvance
    exact turn_of_send_with rfl
  next =>
    cases hadvance
    exact .failed _ _
  next attempt response =>
    cases hadvance
    exact turn_of_respond attempt response
  next attempt =>
    cases hadvance
    exact .moved _ _ (.reacquires attempt)
  next =>
    cases hadvance
    exact turn_of_send_with rfl
  next =>
    cases hadvance
    exact turn_of_send_with rfl
  next attempt challenge =>
    obtain ⟨hfree, hadvance⟩ := Option.ite_none_left_eq_some.1 hadvance
    cases hadvance
    exact .answered attempt challenge (Bool.eq_false_iff.2 hfree)
  next =>
    cases hadvance
    exact .failed _ _
  next attempt request _ =>
    cases hadvance
    exact .finished attempt request
  next => cases hadvance

theorem turn_of_step {input : Input}
    (hstep : step transport self (.advance ticket input) = some next) :
    ∃ phase, self.calls.get ticket = some phase ∧ Turn transport self ticket phase next := by
  unfold step at hstep
  dsimp only at hstep
  cases hget : self.calls.get ticket with
  | none =>
    rw [hget] at hstep
    cases hstep
  | some phase =>
    rw [hget] at hstep
    exact ⟨phase, rfl, turn_of_advance hstep⟩

/-! ## What holds of the operations -/

def Attempt.rounds (self : Attempt) : ℕ :=
  self.attempts + if self.reauthenticated then 1 else 0

def Phase.sends : Phase → ℕ
  | .reading _ | .acquiring _ _ => 0
  | .sending attempt => attempt.rounds + 1
  | .invalidating attempt | .reacquiring attempt | .challenged attempt _
  | .reauthorizing attempt _ | .renewing attempt => attempt.rounds

def Tracks (self : System) (ticket observed : ℕ) : Prop :=
  self.state.revision = observed + (sinceRead ticket self.log).countP Report.finishes

structure Phase.Fits (transport : Transport) (system : System) (ticket : ℕ) (phase : Phase) :
    Prop where
  sends : ScopeEscalation.sends ticket system.log = phase.sends
  attempts : ∀ attempt, phase.attempt = some attempt → attempt.attempts ≤ transport.maxAttempts
  tracks : ∀ attempt, phase.attempt = some attempt → transport.scopeEscalation.isSome = true →
    Tracks system ticket attempt.observed
  escalates : ∀ attempt challenge, phase = .challenged attempt challenge →
    transport.scopeEscalation.isSome = true
  covers : ∀ attempt request, phase = .reauthorizing attempt request →
    system.state.scopes ⊆ request.requestedScopes

structure Sound (transport : Transport) (system : System) : Prop where
  numbered : system.calls.Numbered
  granted : ∀ ticket requested, .finished ticket requested ∈ system.log →
    requested ⊆ system.state.scopes
  fits : ∀ ticket phase, system.calls.get ticket = some phase → phase.Fits transport system ticket
  exclusive : Exclusive system
  coalesced : Coalesced system.log
  bounded : ∀ ticket, sends ticket system.log ≤ 2 + transport.maxAttempts
  unsent : ∀ ticket, system.calls.next ≤ ticket → sends ticket system.log = 0

theorem Phase.Fits.sends_le (h : phase.Fits transport self ticket) :
    ScopeEscalation.sends ticket self.log ≤ 2 + transport.maxAttempts := by
  rw [h.sends]
  have hrounds : ∀ attempt : Attempt, attempt.rounds ≤ attempt.attempts + 1 := by
    intro attempt
    unfold Attempt.rounds
    split <;> omega
  cases phase with
  | reading _ | acquiring _ _ => exact Nat.zero_le _
  | sending attempt | invalidating attempt | reacquiring attempt | challenged attempt _
  | reauthorizing attempt _ | renewing attempt =>
    have hmax := h.attempts attempt rfl
    have hattempt := hrounds attempt
    simp only [Phase.sends]
    omega

variable {other : ℕ} {reports : List Report}

theorem sends_append (log : List Report) (hreports : ∀ report ∈ reports, report.ticket = ticket)
    (hother : other ≠ ticket) : sends other (reports ++ log) = sends other log := by
  induction reports with
  | nil => rfl
  | cons report rest ih =>
    have hne : report ≠ .sent other := by
      rintro rfl
      exact hother (hreports _ List.mem_cons_self)
    rw [List.cons_append, sends_cons hne]
    exact ih fun report hmem => hreports report (List.mem_cons_of_mem _ hmem)

theorem since_read_append (log : List Report)
    (hreports : ∀ report ∈ reports, report.ticket = ticket) (hother : other ≠ ticket) :
    sinceRead other (reports ++ log) = reports ++ sinceRead other log := by
  induction reports with
  | nil => rfl
  | cons report rest ih =>
    have hne : report ≠ .read other := by
      rintro rfl
      exact hother (hreports _ List.mem_cons_self)
    rw [List.cons_append, since_read_cons hne, List.cons_append]
    exact congrArg _ (ih fun report hmem => hreports report (List.mem_cons_of_mem _ hmem))

structure Update (transport : Transport) (system next : System) (ticket : ℕ)
    (reports : List Report) : Prop where
  numbered : next.calls.Numbered
  same : next.calls.next = system.calls.next
  others : ∀ other, other ≠ ticket → next.calls.get other = system.calls.get other
  log : next.log = reports ++ system.log
  own : ∀ report ∈ reports, report.ticket = ticket
  revision : next.state.revision = system.state.revision + reports.countP Report.finishes
  scopes : system.state.scopes ⊆ next.state.scopes
  held : next.state.scopes = system.state.scopes ∨
    ∀ other, other ≠ ticket → (system.calls.get other).any Phase.isReauthorizing = false
  granted : ∀ other requested, .finished other requested ∈ reports →
    requested ⊆ next.state.scopes
  fits : ∀ after, next.calls.get ticket = some after → after.Fits transport next ticket
  exclusive : (next.calls.get ticket).any Phase.isReauthorizing = true →
    ∀ other, other ≠ ticket → (system.calls.get other).any Phase.isReauthorizing = false
  coalesced : Coalesced next.log
  bounded : sends ticket next.log ≤ 2 + transport.maxAttempts

theorem Phase.Fits.update (h : phase.Fits transport self other)
    (hget : self.calls.get other = some phase) (hupdate : Update transport self next ticket reports)
    (hother : other ≠ ticket) :
    phase.Fits transport next other where
  sends := by
    rw [hupdate.log, sends_append _ hupdate.own hother]
    exact h.sends
  attempts := h.attempts
  tracks := by
    intro attempt hattempt hescalates
    have htracks := h.tracks attempt hattempt hescalates
    unfold Tracks at htracks ⊢
    rw [hupdate.log, since_read_append _ hupdate.own hother, List.countP_append,
      hupdate.revision]
    omega
  escalates := h.escalates
  covers := by
    rintro attempt request rfl
    obtain hsame | hnone := hupdate.held
    · rw [hsame]
      exact h.covers attempt request rfl
    · have hnot := hnone other hother
      rw [hget] at hnot
      cases hnot

theorem Sound.update (h : Sound transport self) (hticket : ticket < self.calls.next)
    (hupdate : Update transport self next ticket reports) : Sound transport next where
  numbered := hupdate.numbered
  granted := by
    intro other requested hmem
    rw [hupdate.log] at hmem
    obtain hnew | hold := List.mem_append.1 hmem
    · exact hupdate.granted other requested hnew
    · exact List.Subset.trans (h.granted other requested hold) hupdate.scopes
  fits := by
    intro other phase hget
    by_cases hother : other = ticket
    · rw [hother] at hget ⊢
      exact hupdate.fits phase hget
    · rw [hupdate.others other hother] at hget
      exact (h.fits other phase hget).update hget hupdate hother
  exclusive := by
    intro first second hfirst hsecond
    by_cases hone : first = ticket
    · by_cases htwo : second = ticket
      · rw [hone, htwo]
      · have hnot := hupdate.exclusive (hone ▸ hfirst) second htwo
        rw [hupdate.others second htwo, hnot] at hsecond
        cases hsecond
    · rw [hupdate.others first hone] at hfirst
      by_cases htwo : second = ticket
      · have hnot := hupdate.exclusive (htwo ▸ hsecond) first hone
        rw [hnot] at hfirst
        cases hfirst
      · rw [hupdate.others second htwo] at hsecond
        exact h.exclusive first second hfirst hsecond
  coalesced := hupdate.coalesced
  bounded := by
    intro other
    by_cases hother : other = ticket
    · rw [hother]
      exact hupdate.bounded
    · rw [hupdate.log, sends_append _ hupdate.own hother]
      exact h.bounded other
  unsent := by
    intro other hnext
    rw [hupdate.same] at hnext
    have hother : other ≠ ticket := by omega
    rw [hupdate.log, sends_append _ hupdate.own hother]
    exact h.unsent other hnext

theorem not_reauthorizing_of_free (hfree : self.isLocked = false) (other : ℕ) :
    (self.calls.get other).any Phase.isReauthorizing = false := by
  cases hget : self.calls.get other with
  | none => rfl
  | some phase => exact holds_of_not_any hfree other phase hget

variable {after : Phase}

theorem Sound.become (h : Sound transport self) (hget : self.calls.get ticket = some phase)
    (hown : ∀ report ∈ reports, report.ticket = ticket)
    (hfinishes : reports.countP Report.finishes = 0) (hfits : after.Fits transport
      { self with calls := self.calls.become ticket after, log := reports ++ self.log } ticket)
    (hexclusive : after.isReauthorizing = true → self.isLocked = false)
    (hcoalesced : Coalesced (reports ++ self.log)) :
    Sound transport
      { self with calls := self.calls.become ticket after, log := reports ++ self.log } := by
  refine h.update (h.numbered ticket phase hget)
    { numbered := h.numbered.become hget after
      same := rfl
      others := fun other hother => ?_
      log := rfl
      own := hown
      revision := ?_
      scopes := List.Subset.refl _
      held := .inl rfl
      granted := fun other requested hmem => ?_
      fits := fun held hheld => ?_
      exclusive := fun hheld other _ => ?_
      coalesced := hcoalesced
      bounded := hfits.sends_le }
  · rw [get_become_eq_ite, if_neg hother]
  · rw [hfinishes]
    rfl
  · have hnone := List.countP_eq_zero.1 hfinishes _ hmem
    simp [Report.finishes] at hnone
  · rw [get_become_self] at hheld
    exact Option.some.inj hheld ▸ hfits
  · rw [get_become_self] at hheld
    exact not_reauthorizing_of_free (hexclusive hheld) other

theorem Sound.settle (h : Sound transport self) (hget : self.calls.get ticket = some phase)
    {report : Report} (hown : report.ticket = ticket) (hfinishes : report.finishes = false)
    (hjustified : report.Justified self.log) (hsent : report ≠ .sent ticket) :
    Sound transport (self.settle ticket report) := by
  have hgone : (self.calls.finish ticket).get ticket = none := by
    rw [get_finish_eq_ite, if_pos rfl]
  have hlog : (self.settle ticket report).log = [report] ++ self.log := rfl
  refine h.update (h.numbered ticket phase hget)
    { numbered := h.numbered.finish ticket
      same := rfl
      others := fun other hother => ?_
      log := hlog
      own := List.forall_mem_singleton.2 hown
      revision := ?_
      scopes := List.Subset.refl _
      held := .inl rfl
      granted := fun other requested hmem => ?_
      fits := fun held hheld => ?_
      exclusive := fun hheld => ?_
      coalesced := ⟨hjustified, h.coalesced⟩
      bounded := ?_ }
  · show (self.calls.finish ticket).get other = _
    rw [get_finish_eq_ite, if_neg hother]
  · simp [System.settle, hfinishes]
  · obtain rfl := List.mem_singleton.1 hmem
    cases hfinishes
  · have hnone : (self.calls.finish ticket).get ticket = some held := hheld
    rw [hgone] at hnone
    cases hnone
  · have hnone : ((self.calls.finish ticket).get ticket).any Phase.isReauthorizing = true := hheld
    rw [hgone] at hnone
    cases hnone
  · show sends ticket (report :: self.log) ≤ _
    rw [sends_cons hsent]
    exact h.bounded ticket

theorem subset_requested_scopes (previous : List String) (challenge : OAuthScopeChallenge) :
    previous ⊆ requestedScopes previous challenge := by
  unfold requestedScopes
  induction challenge.requiredScopes generalizing previous with
  | nil => exact List.Subset.refl _
  | cons scope rest ih =>
    rw [List.foldl_cons]
    refine List.Subset.trans ?_ (ih _)
    split
    · exact List.Subset.refl _
    · exact List.subset_append_left _ _

theorem requested_scopes_of_subset {previous : List String} {challenge : OAuthScopeChallenge}
    (hsubset : challenge.requiredScopes ⊆ previous) :
    requestedScopes previous challenge = previous := by
  unfold requestedScopes
  revert hsubset
  induction challenge.requiredScopes with
  | nil => exact fun _ => rfl
  | cons scope rest ih =>
    intro hsubset
    obtain ⟨hscope, hrest⟩ := List.cons_subset.1 hsubset
    rw [List.foldl_cons, if_pos hscope]
    exact ih hrest

theorem Phase.Fits.move (h : phase.Fits transport self ticket)
    (hquiet : Quiet transport phase after) :
    after.Fits transport (self.move ticket after) ticket := by
  cases hquiet with
  | invalidates attempt hfirst =>
    refine ⟨?_, ?_, ?_, nofun, nofun⟩
    · have hsends := h.sends
      simp only [Phase.sends, Attempt.rounds, hfirst] at hsends ⊢
      exact hsends
    · rintro _ ⟨⟩
      exact h.attempts attempt rfl
    · rintro _ ⟨⟩
      exact h.tracks attempt rfl
  | reacquires attempt => exact ⟨h.sends, h.attempts, h.tracks, nofun, nofun⟩
  | challenges attempt challenge hescalates hbelow =>
    refine ⟨?_, ?_, ?_, fun _ _ _ => hescalates, nofun⟩
    · have hsends := h.sends
      simp only [Phase.sends, Attempt.rounds] at hsends ⊢
      show ScopeEscalation.sends ticket self.log = _
      omega
    · rintro _ ⟨⟩
      exact hbelow
    · rintro _ ⟨⟩
      exact h.tracks attempt rfl

theorem Phase.Fits.send (h : phase.Fits transport self ticket)
    (hresends : phase.resends = some attempt) :
    (Phase.sending attempt).Fits transport (self.send ticket attempt) ticket := by
  have hattempt : phase.attempt = some attempt ∧ phase.sends = attempt.rounds := by
    cases phase with
    | acquiring operation observed =>
      cases hresends
      exact ⟨rfl, rfl⟩
    | reacquiring _ | renewing _ =>
      cases hresends
      exact ⟨rfl, rfl⟩
    | reading _ | sending _ | invalidating _ | challenged _ _ | reauthorizing _ _ => cases hresends
  refine ⟨?_, ?_, ?_, nofun, nofun⟩
  · show ScopeEscalation.sends ticket (.sent ticket :: self.log) = attempt.rounds + 1
    rw [sends_sent, h.sends, hattempt.2]
  · rintro _ ⟨⟩
    exact h.attempts attempt hattempt.1
  · rintro _ ⟨⟩ hescalates
    have htracks := h.tracks attempt hattempt.1 hescalates
    unfold Tracks at htracks ⊢
    show self.state.revision = _ + (sinceRead ticket (.sent ticket :: self.log)).countP _
    have hother : Report.sent ticket ≠ .read ticket := nofun
    rw [since_read_cons hother]
    exact htracks

theorem Phase.Fits.start (h : phase.Fits transport self ticket) {operation : Operation}
    (hreading : phase = .reading operation) {observed : ℕ}
    (hobserved : transport.scopeEscalation.isSome = true → observed = self.state.revision)
    (calls : Pool Phase) :
    (Phase.acquiring operation observed).Fits transport
      { self with calls, log := .read ticket :: self.log } ticket := by
  refine ⟨?_, ?_, ?_, nofun, nofun⟩
  · show ScopeEscalation.sends ticket (.read ticket :: self.log) = 0
    have hother : Report.read ticket ≠ .sent ticket := nofun
    rw [sends_cons hother, h.sends, hreading]
    rfl
  · rintro _ ⟨⟩
    exact Nat.zero_le _
  · rintro _ ⟨⟩ hescalates
    show self.state.revision = observed + (sinceRead ticket (.read ticket :: self.log)).countP _
    rw [since_read_self, hobserved hescalates]
    rfl

namespace Sound

theorem start (h : Sound transport self) {operation : Operation}
    (hget : self.calls.get ticket = some (.reading operation)) :
    Sound transport (ScopeEscalation.start transport self ticket operation) := by
  have hfits := h.fits ticket _ hget
  have hobserved : transport.scopeEscalation.isSome = true →
      (if transport.scopeEscalation.isSome then self.state.revision else 0) =
        self.state.revision := fun hescalates => if_pos hescalates
  unfold ScopeEscalation.start
  dsimp only
  split
  next =>
    have hacquiring := hfits.start rfl hobserved (self.calls.become ticket
      (.acquiring operation (if transport.scopeEscalation.isSome then self.state.revision else 0)))
    have hown : ∀ report ∈ [Report.read ticket], report.ticket = ticket :=
      List.forall_mem_singleton.2 rfl
    exact h.become hget hown rfl hacquiring nofun ⟨trivial, h.coalesced⟩
  next =>
    have hsending := (hfits.start rfl hobserved self.calls).send rfl
    have hown : ∀ report ∈ [Report.sent ticket, .read ticket], report.ticket = ticket :=
      List.forall_mem_cons.2 ⟨rfl, List.forall_mem_singleton.2 rfl⟩
    exact h.become hget hown rfl hsending nofun ⟨trivial, trivial, h.coalesced⟩

variable {attempt : Attempt}

theorem send (h : Sound transport self) (hget : self.calls.get ticket = some phase)
    (hresends : phase.resends = some attempt) : Sound transport (self.send ticket attempt) := by
  have hown : ∀ report ∈ [Report.sent ticket], report.ticket = ticket :=
    List.forall_mem_singleton.2 rfl
  exact h.become hget hown rfl ((h.fits ticket phase hget).send hresends) nofun
    ⟨trivial, h.coalesced⟩

theorem move (h : Sound transport self) (hget : self.calls.get ticket = some phase) (hquiet : Quiet transport phase after) :
    Sound transport (self.move ticket after) := by
  have hexclusive : after.isReauthorizing = true → self.isLocked = false := by
    cases hquiet <;> exact nofun
  exact h.become hget (List.forall_mem_nil _) rfl ((h.fits ticket phase hget).move hquiet)
    hexclusive h.coalesced

variable {challenge : OAuthScopeChallenge}

theorem seen (h : Sound transport self)
    (hfits : (Phase.challenged attempt challenge).Fits transport self ticket)
    {requested : List String} (hfinished : .finished other requested ∈ sinceRead ticket self.log)
    (hasks : challenge.requiredScopes ⊆ requested) :
    requestedScopes self.state.scopes challenge = self.state.scopes ∧
      attempt.observed < self.state.revision := by
  refine ⟨requested_scopes_of_subset ?_, ?_⟩
  · exact List.Subset.trans hasks (h.granted other requested (mem_of_since_read hfinished))
  · have htracks := hfits.tracks attempt rfl (hfits.escalates attempt challenge rfl)
    have hpositive : 0 < (sinceRead ticket self.log).countP Report.finishes :=
      List.countP_pos_iff.2 ⟨_, hfinished, rfl⟩
    unfold Tracks at htracks
    omega

theorem respond_to_challenge (h : Sound transport self)
    (hget : self.calls.get ticket = some (.challenged attempt challenge))
    (hfree : self.isLocked = false) :
    Sound transport (respondToChallenge transport self ticket attempt challenge) := by
  have hfits := h.fits ticket _ hget
  unfold respondToChallenge
  dsimp only
  split
  next =>
    have hown : ∀ report ∈ [Report.read ticket], report.ticket = ticket :=
      List.forall_mem_singleton.2 rfl
    refine h.become hget hown rfl ⟨?_, ?_, ?_, nofun, nofun⟩ nofun ⟨trivial, h.coalesced⟩
    · have hother : Report.read ticket ≠ .sent ticket := nofun
      show sends ticket (.read ticket :: self.log) = _
      rw [sends_cons hother]
      exact hfits.sends
    · rintro _ ⟨⟩
      exact hfits.attempts attempt rfl
    · rintro _ ⟨⟩ _
      show _ = _ + (sinceRead ticket (.read ticket :: self.log)).countP _
      rw [since_read_self]
      rfl
  next hnew =>
    set request : OAuthScopeEscalationRequest :=
      { resource := transport.url, operation := attempt.operation.name, challenge := challenge
        previousScopes := self.state.scopes
        requestedScopes := requestedScopes self.state.scopes challenge
        attempt := attempt.attempts }
    have hown : ∀ report ∈ [Report.started ticket request], report.ticket = ticket :=
      List.forall_mem_singleton.2 rfl
    have hjustified : (Report.started ticket request).Justified self.log :=
      fun other requested hfinished hasks => hnew (h.seen hfits hfinished hasks)
    refine h.become hget hown rfl ⟨?_, ?_, ?_, nofun, ?_⟩ (fun _ => hfree)
      ⟨hjustified, h.coalesced⟩
    · have hother : Report.started ticket request ≠ .sent ticket := nofun
      show sends ticket (.started ticket request :: self.log) = _
      rw [sends_cons hother]
      exact hfits.sends
    · rintro _ ⟨⟩
      exact hfits.attempts attempt rfl
    · rintro _ ⟨⟩ hescalates
      have hother : Report.started ticket request ≠ .read ticket := nofun
      have htracks := hfits.tracks attempt rfl hescalates
      unfold Tracks at htracks ⊢
      show self.state.revision =
        _ + (sinceRead ticket (.started ticket request :: self.log)).countP _
      rw [since_read_cons hother]
      exact htracks
    · rintro _ _ ⟨⟩
      exact subset_requested_scopes self.state.scopes challenge

theorem finish (h : Sound transport self) {request : OAuthScopeEscalationRequest}
    (hget : self.calls.get ticket = some (.reauthorizing attempt request)) :
    Sound transport (ScopeEscalation.finish self ticket attempt request) := by
  have hfits := h.fits ticket _ hget
  have hread : Report.read ticket ≠ .sent ticket := nofun
  have hdone : Report.finished ticket request.requestedScopes ≠ .sent ticket := nofun
  have hsends : sends ticket
      (.read ticket :: .finished ticket request.requestedScopes :: self.log) = attempt.rounds := by
    rw [sends_cons hread, sends_cons hdone]
    exact hfits.sends
  have hrenewing : (Phase.renewing { attempt with observed := self.state.revision + 1 }).Fits
      transport (ScopeEscalation.finish self ticket attempt request) ticket := by
    refine ⟨hsends, ?_, ?_, nofun, nofun⟩
    · rintro _ ⟨⟩
      exact hfits.attempts attempt rfl
    · rintro _ ⟨⟩ _
      show _ = _ + (sinceRead ticket (.read ticket :: _)).countP _
      rw [since_read_self]
      rfl
  have hlog : (ScopeEscalation.finish self ticket attempt request).log =
      [.read ticket, .finished ticket request.requestedScopes] ++ self.log := rfl
  refine h.update (h.numbered ticket _ hget)
    { numbered := h.numbered.become hget _
      same := rfl
      others := fun other hother => ?_
      log := hlog
      own := List.forall_mem_cons.2 ⟨rfl, List.forall_mem_singleton.2 rfl⟩
      revision := rfl
      scopes := hfits.covers attempt request rfl
      held := .inr fun other hother => ?_
      granted := fun other requested hmem => ?_
      fits := fun held hheld => ?_
      exclusive := fun hheld => ?_
      coalesced := ⟨trivial, trivial, h.coalesced⟩
      bounded := hrenewing.sends_le }
  · show (self.calls.become ticket _).get other = _
    rw [get_become_eq_ite, if_neg hother]
  · by_contra hreauthorizing
    refine hother (h.exclusive other ticket (Bool.not_eq_false _ ▸ hreauthorizing) ?_)
    rw [hget]
    rfl
  · obtain hmem | hmem := List.mem_cons.1 hmem
    · cases hmem
    · obtain ⟨_, rfl⟩ := Report.finished.inj (List.mem_singleton.1 hmem)
      exact List.Subset.refl _
  · have hself : (self.calls.become ticket _).get ticket = some held := hheld
    rw [get_become_self] at hself
    exact Option.some.inj hself ▸ hrenewing
  · have hself : ((self.calls.become ticket _).get ticket).any Phase.isReauthorizing = true := hheld
    rw [get_become_self] at hself
    cases hself

theorem turn (h : Sound transport self) (hget : self.calls.get ticket = some phase)
    (hturn : Turn transport self ticket phase next) : Sound transport next := by
  cases hturn with
  | ended phase status => exact h.settle hget rfl rfl trivial nofun
  | failed phase message => exact h.settle hget rfl rfl trivial nofun
  | read operation => exact h.start hget
  | sent phase attempt hresends => exact h.send hget hresends
  | moved phase after hquiet => exact h.move hget hquiet
  | answered attempt challenge hfree => exact h.respond_to_challenge hget hfree
  | finished attempt request => exact h.finish hget

end Sound

variable {event : Event}

theorem Sound.step (h : Sound transport self)
    (hstep : ScopeEscalation.step transport self event = some next) : Sound transport next := by
  cases event with
  | advance ticket input =>
    obtain ⟨phase, hget, hturn⟩ := turn_of_step hstep
    exact h.turn hget hturn
  | start operation =>
    cases hstep
    refine
      { numbered := h.numbered.start _
        granted := h.granted
        fits := fun ticket phase hget => ?_
        exclusive := fun first second hfirst hsecond => ?_
        coalesced := h.coalesced
        bounded := h.bounded
        unsent := fun ticket hnext => h.unsent ticket (Nat.le_of_succ_le hnext) }
    · have hstarted : (self.calls.start (.reading operation)).get ticket = some phase := hget
      rw [get_start_eq_ite] at hstarted
      split at hstarted
      next hnew =>
        cases hstarted
        exact ⟨h.unsent ticket hnew.ge, nofun, nofun, nofun, nofun⟩
      next =>
        have hfits := h.fits ticket phase hstarted
        exact ⟨hfits.sends, hfits.attempts, hfits.tracks, hfits.escalates, hfits.covers⟩
    · have hbefore : ∀ ticket,
          ((self.calls.start (.reading operation)).get ticket).any Phase.isReauthorizing = true →
            (self.calls.get ticket).any Phase.isReauthorizing = true := by
        intro ticket hany
        rw [get_start_eq_ite] at hany
        split at hany
        next => cases hany
        next => exact hany
      exact h.exclusive first second (hbefore first hfirst) (hbefore second hsecond)
  | drop ticket =>
    cases hstep
    have hbefore : ∀ other phase, (self.calls.finish ticket).get other = some phase →
        self.calls.get other = some phase := by
      intro other phase hget
      rw [get_finish_eq_ite] at hget
      exact (Option.ite_none_left_eq_some.1 hget).2
    refine
      { numbered := h.numbered.finish ticket
        granted := h.granted
        fits := fun other phase hget => ?_
        exclusive := fun first second hfirst hsecond => ?_
        coalesced := h.coalesced
        bounded := h.bounded
        unsent := h.unsent }
    · have hfits := h.fits other phase (hbefore other phase hget)
      exact ⟨hfits.sends, hfits.attempts, hfits.tracks, hfits.escalates, hfits.covers⟩
    · have hany : ∀ other,
          ((self.calls.finish ticket).get other).any Phase.isReauthorizing = true →
            (self.calls.get other).any Phase.isReauthorizing = true := by
        intro other hother
        obtain ⟨phase, hget, hphase⟩ := (Option.any_eq_true _ _).1 hother
        rw [hbefore other phase hget]
        exact hphase
      exact h.exclusive first second (hany first hfirst) (hany second hsecond)

theorem sound_initial (transport : Transport) : Sound transport (initial transport) where
  numbered := numbered_empty
  granted := fun _ _ hmem => by cases hmem
  fits := fun _ _ hget => by cases hget
  exclusive := fun _ _ hany => by cases hany
  coalesced := trivial
  bounded := fun _ => Nat.zero_le _
  unsent := fun _ _ => rfl

/-! ## How far an operation can go -/

def System.budget (bound : ℕ) (self : System) (ticket : ℕ) : ℕ :=
  match self.calls.get ticket with
  | some phase => phase.rank bound
  | none => if ticket < self.calls.next then 0 else 4 * bound + 6

theorem Quiet.rank_lt {bound : ℕ} (hquiet : Quiet transport phase after)
    (hbound : transport.maxAttempts = bound) : after.rank bound < phase.rank bound := by
  cases hquiet with
  | invalidates attempt hfirst => simp [Phase.rank, Attempt.rank, hfirst]
  | reacquires attempt => simp [Phase.rank]
  | challenges attempt challenge hescalates hbelow =>
    simp only [Phase.rank, Attempt.rank]
    omega

theorem rank_of_resends {bound : ℕ} (hresends : phase.resends = some attempt) :
    (Phase.sending attempt).rank bound < phase.rank bound := by
  cases phase with
  | acquiring operation observed =>
    cases hresends
    simp [Phase.rank, Attempt.rank]
  | reacquiring _ | renewing _ =>
    cases hresends
    simp [Phase.rank]
  | reading _ | sending _ | invalidating _ | challenged _ _ | reauthorizing _ _ => cases hresends

theorem Phase.rank_pos (bound : ℕ) (phase : Phase) : 0 < phase.rank bound := by
  cases phase <;> simp [Phase.rank, Attempt.rank]

/-- What a turn does to the operations: its own ends, or goes on with less to do. -/
theorem Turn.calls_eq (hturn : Turn transport self ticket phase next) :
    next.calls = self.calls.finish ticket ∨
      ∃ after, next.calls = self.calls.become ticket after ∧
        after.rank transport.maxAttempts < phase.rank transport.maxAttempts := by
  cases hturn with
  | ended phase status | failed phase message => exact .inl rfl
  | read operation =>
    unfold start
    dsimp only
    split
    next => exact .inr ⟨_, rfl, Nat.lt_succ_self _⟩
    next =>
      refine .inr ⟨_, rfl, ?_⟩
      simp [Phase.rank, Attempt.rank]
  | sent phase attempt hresends => exact .inr ⟨_, rfl, rank_of_resends hresends⟩
  | moved phase after hquiet => exact .inr ⟨_, rfl, hquiet.rank_lt rfl⟩
  | answered attempt challenge hfree =>
    unfold respondToChallenge
    dsimp only
    split
    next => exact .inr ⟨_, rfl, Nat.add_lt_add_left (by omega) _⟩
    next => exact .inr ⟨_, rfl, Nat.lt_succ_self _⟩
  | finished attempt request => exact .inr ⟨_, rfl, Nat.lt_succ_self _⟩

theorem Turn.frame (hturn : Turn transport self ticket phase next) :
    next.calls.next = self.calls.next ∧
      ∀ other, other ≠ ticket → next.calls.get other = self.calls.get other := by
  obtain hcalls | ⟨after, hcalls, -⟩ := hturn.calls_eq <;> rw [hcalls]
  · exact ⟨rfl, fun other hother => by rw [get_finish_eq_ite, if_neg hother]⟩
  · exact ⟨rfl, fun other hother => by rw [get_become_eq_ite, if_neg hother]⟩

theorem Turn.budget_lt (hturn : Turn transport self ticket phase next)
    (hticket : ticket < self.calls.next) :
    next.budget transport.maxAttempts ticket < phase.rank transport.maxAttempts := by
  unfold System.budget
  obtain hcalls | ⟨after, hcalls, hlt⟩ := hturn.calls_eq <;> rw [hcalls]
  · rw [get_finish_eq_ite, if_pos rfl]
    show (if ticket < self.calls.next then 0 else _) < _
    rw [if_pos hticket]
    exact phase.rank_pos _
  · rw [get_become_self]
    exact hlt

theorem budget_step (h : Sound transport self) (hstep : step transport self event = some next)
    (ticket : ℕ) :
    next.budget transport.maxAttempts ticket + (if event.advances ticket then 1 else 0) ≤
      self.budget transport.maxAttempts ticket := by
  cases event with
  | advance other input =>
    obtain ⟨phase, hget, hturn⟩ := turn_of_step hstep
    by_cases hother : other = ticket
    · subst hother
      have hlt := hturn.budget_lt (h.numbered other phase hget)
      have hbudget : self.budget transport.maxAttempts other =
          phase.rank transport.maxAttempts := by
        unfold System.budget
        rw [hget]
      rw [hbudget]
      simp only [Event.advances, beq_self_eq_true, if_true]
      omega
    · have hbudget : next.budget transport.maxAttempts ticket =
          self.budget transport.maxAttempts ticket := by
        unfold System.budget
        rw [hturn.frame.2 ticket (Ne.symm hother), hturn.frame.1]
      rw [hbudget]
      simp [Event.advances, hother]
  | start operation =>
    cases hstep
    simp only [Event.advances, Bool.false_eq_true, if_false, Nat.add_zero]
    unfold System.budget
    rw [get_start_eq_ite]
    show (match if ticket = self.calls.next then _ else _ with
      | some phase => Phase.rank _ phase
      | none => if ticket < self.calls.next + 1 then 0 else _) ≤ _
    by_cases hnew : ticket = self.calls.next
    · rw [if_pos hnew, hnew, h.numbered.get_next]
      simp [Phase.rank]
    · rw [if_neg hnew]
      cases self.calls.get ticket with
      | some phase => exact Nat.le_refl _
      | none =>
        dsimp only
        split
        · exact Nat.zero_le _
        · rw [if_neg (by omega)]
  | drop other =>
    cases hstep
    simp only [Event.advances, Bool.false_eq_true, if_false, Nat.add_zero]
    unfold System.budget
    rw [get_finish_eq_ite]
    by_cases hother : ticket = other
    · rw [if_pos hother]
      show (if ticket < self.calls.next then 0 else _) ≤ _
      split
      · exact Nat.zero_le _
      next hnot =>
        cases hget : self.calls.get ticket with
        | none => simp
        | some phase => exact absurd (h.numbered ticket phase hget) hnot
    · rw [if_neg hother]
      exact Nat.le_refl _

theorem budget_run {events : List Event} {final : System} (h : Sound transport self)
    (hrun : run (step transport) self events = some final) (ticket : ℕ) :
    final.budget transport.maxAttempts ticket + events.countP (Event.advances ticket) ≤
      self.budget transport.maxAttempts ticket := by
  induction events generalizing self with
  | nil =>
    cases hrun
    exact Nat.le_refl _
  | cons event rest ih =>
    obtain ⟨next, hnext, hrest⟩ := run_cons.1 hrun
    have hstep := budget_step h hnext ticket
    have htail := ih (h.step hnext) hrest
    rw [List.countP_cons]
    omega

def CanGoOn (transport : Transport) (self : System) (ticket : ℕ) : Prop :=
  ∃ input, (step transport self (.advance ticket input)).isSome = true

theorem can_go_on (hget : self.calls.get ticket = some phase) :
    CanGoOn transport self ticket ∨
      ∃ holder, (self.calls.get holder).any Phase.isReauthorizing = true ∧
        CanGoOn transport self holder := by
  have hgoes : ∀ {other held} input, self.calls.get other = some held →
      (advance transport self other held input).isSome = true →
        CanGoOn transport self other := by
    intro other held input hother hsome
    refine ⟨input, ?_⟩
    unfold step
    dsimp only
    rw [hother]
    exact hsome
  cases hlocked : self.isLocked with
  | true =>
    obtain ⟨holder, held, hholder, hreauthorizing⟩ := any_eq_true_iff.1 hlocked
    refine .inr ⟨holder, by rw [hholder]; exact hreauthorizing, ?_⟩
    cases held with
    | reauthorizing attempt request => exact hgoes (.reauthorized (.ok ())) hholder rfl
    | reading _ | acquiring _ _ | sending _ | invalidating _ | reacquiring _ | challenged _ _
    | renewing _ => cases hreauthorizing
  | false =>
    refine .inl ?_
    cases phase with
    | reading _ => exact hgoes .proceed hget (by simp [advance, hlocked])
    | acquiring _ _ => exact hgoes (.acquired (.ok "")) hget rfl
    | sending _ => exact hgoes (.responded (.error "")) hget rfl
    | invalidating _ => exact hgoes .proceed hget rfl
    | reacquiring _ => exact hgoes (.acquired (.ok "")) hget rfl
    | challenged _ _ => exact hgoes .proceed hget (by simp [advance, hlocked])
    | reauthorizing _ _ => exact hgoes (.reauthorized (.ok ())) hget rfl
    | renewing _ => exact hgoes (.acquired (.ok "")) hget rfl

/-! ## Runs -/

theorem Turn.scopes (h : Sound transport self) (hget : self.calls.get ticket = some phase)
    (hturn : Turn transport self ticket phase next) : self.state.scopes ⊆ next.state.scopes := by
  cases hturn with
  | ended phase status | failed phase message => exact List.Subset.refl _
  | read operation =>
    unfold start
    dsimp only
    split <;> exact List.Subset.refl _
  | sent phase attempt hresends | moved phase after hquiet => exact List.Subset.refl _
  | answered attempt challenge hfree =>
    unfold respondToChallenge
    dsimp only
    split <;> exact List.Subset.refl _
  | finished attempt request => exact (h.fits ticket _ hget).covers attempt request rfl

theorem scopes_step (h : Sound transport self) (hstep : step transport self event = some next) :
    self.state.scopes ⊆ next.state.scopes := by
  cases event with
  | start _ | drop _ =>
    cases hstep
    exact List.Subset.refl _
  | advance ticket input =>
    obtain ⟨phase, hget, hturn⟩ := turn_of_step hstep
    exact hturn.scopes h hget

/-- In every run the runtime forgets no scope that it tracks; no reauthorization asks again for what
another has asked for since its operation read the revision; no two overlap; and an operation sends
at most two requests and one for each attempt it is allowed, takes a bounded number of steps, and
can go on as long as it is in flight, or else the one that holds the lock can. -/
theorem escalation_bounded (transport : Transport) {events more : List Event}
    {middle final : System}
    (hrun : run (step transport) (initial transport) events = some middle)
    (hmore : run (step transport) middle more = some final) :
    middle.state.scopes ⊆ final.state.scopes ∧ Coalesced final.log ∧ Exclusive final ∧
      ∀ ticket, sends ticket final.log ≤ 2 + transport.maxAttempts ∧
        (events ++ more).countP (Event.advances ticket) ≤ 4 * transport.maxAttempts + 6 ∧
        ((final.calls.get ticket).isSome = true →
          CanGoOn transport final ticket ∨
            ∃ holder, (final.calls.get holder).any Phase.isReauthorizing = true ∧
              CanGoOn transport final holder) := by
  have hkeeps : ∀ before event after, Sound transport before →
      step transport before event = some after → Sound transport after :=
    fun _ _ _ h hstep => h.step hstep
  have hmiddle := run_invariant hkeeps (sound_initial transport) hrun
  have hgrows : ∀ before event after,
      Sound transport before ∧ middle.state.scopes ⊆ before.state.scopes →
        step transport before event = some after →
          Sound transport after ∧ middle.state.scopes ⊆ after.state.scopes :=
    fun _ _ _ h hstep => ⟨h.1.step hstep, List.Subset.trans h.2 (scopes_step h.1 hstep)⟩
  obtain ⟨hfinal, hscopes⟩ :=
    run_invariant hgrows ⟨hmiddle, List.Subset.refl _⟩ hmore
  refine ⟨hscopes, hfinal.coalesced, hfinal.exclusive, fun ticket => ?_⟩
  refine ⟨hfinal.bounded ticket, ?_, ?_⟩
  · have hall : run (step transport) (initial transport) (events ++ more) = some final :=
      run_append_some.2 ⟨middle, hrun, hmore⟩
    have hbudget := budget_run (sound_initial transport) hall ticket
    have hinitial : (initial transport).budget transport.maxAttempts ticket =
        4 * transport.maxAttempts + 6 := rfl
    omega
  · intro hsome
    obtain ⟨phase, hget⟩ := Option.isSome_iff_exists.1 hsome
    exact can_go_on hget

/-! ## Two operations that are challenged at once -/

def plainTransport : Transport where
  url := "https://mcp.example.com"
  tokenProvider := true
  scopeEscalation := some (.new ["mcp:read"])
  headerValue := some

def insufficient : Response where
  status := 403
  wwwAuthenticate := ["Bearer error=\"insufficient_scope\", scope=\"mcp:write\""]

def challengedTwice : List Event :=
  [.start ⟨"tools/call", true⟩, .start ⟨"tools/call", true⟩,
    .advance 0 .proceed, .advance 1 .proceed,
    .advance 0 (.acquired (.ok "token")), .advance 1 (.acquired (.ok "token")),
    .advance 0 (.responded (.ok insufficient)), .advance 1 (.responded (.ok insufficient))]

def escalatedOnce : List Event :=
  [.advance 0 .proceed, .advance 0 (.reauthorized (.ok ())), .advance 1 .proceed,
    .advance 1 (.acquired (.ok "other")), .advance 1 (.responded (.ok { status := 200 }))]

theorem escalated_once :
    ((run (step plainTransport) (initial plainTransport) challengedTwice).bind
        fun middle => (run (step plainTransport) middle escalatedOnce).map
          fun final => (middle.state.scopes, final.state.scopes)) =
      some (["mcp:read"], ["mcp:read", "mcp:write"]) := by
  decide +kernel

theorem escalation_bounded_once :
    ∃ final : System, final.state.scopes = ["mcp:read", "mcp:write"] ∧ Coalesced final.log ∧
      sends 1 final.log ≤ 4 := by
  obtain ⟨middle, hrun, hrest⟩ := Option.bind_eq_some_iff.1 escalated_once
  obtain ⟨final, hmore, hscopes⟩ := Option.map_eq_some_iff.1 hrest
  obtain ⟨_, hcoalesced, _, hbounded⟩ := escalation_bounded plainTransport hrun hmore
  exact ⟨final, (Prod.mk.inj hscopes).2, hcoalesced, (hbounded 1).1⟩

end ScopeEscalation

end TowerMcp
