import TowerMcp.Lib.Fallible
import TowerMcp.Proxy.Watchers

/-!
# The caches of a proxy

No notification is lost, and none refreshes another backend, in a run where every watcher that has
received one finds its own backend at the position it has captured, and where the channel has room or
already holds a notification of the kind. Both go wrong in the code: a removal moves the backends
after it to other positions, and the channel drops what it has no room for.
-/

namespace TowerMcp

open Execution FinMap Pool

namespace WatchedProxy

/-- What holds of a link: while its client is being added its watcher is not started; what has changed
since the last listing is in the channel, or the watcher has it; and a registered client's watcher
does not exit and refreshes nothing else. -/
structure Tended (client : ℕ) (call : Option BackendCall) (registered : Bool) (link : Link) :
    Prop where
  unspawned : ∀ added backend, call = some added → added.backend = some backend →
    link.phase = .unspawned
  listed : ∀ backend, call = some (.discovering backend) →
    ∀ changed, link.listed changed = link.notified changed ∨ changed ∈ link.queue
  pending : registered = true → ∀ changed, link.cached changed = link.notified changed ∨
    changed ∈ link.queue ∨ link.phase = .holding changed ∨
      ∃ target, link.phase = .refreshing changed target (link.notified changed)
  aimed : ∀ changed target seen, link.phase = .refreshing changed target seen → target = client ∧
    (registered = true → seen = link.notified changed ∨ changed ∈ link.queue)
  alive : registered = true → link.phase ≠ .exited

variable {client : ℕ} {call : Option BackendCall} {registered : Bool} {link : Link}

theorem Tended.mono (h : Tended client call registered link) {call' : Option BackendCall}
    {registered' : Bool} (hregistered : registered' = true → registered = true)
    (hcall : ∀ added backend, call' = some added → added.backend = some backend → call' = call) :
    Tended client call' registered' link where
  unspawned added backend hadded hbackend :=
    h.unspawned added backend (hcall added backend hadded hbackend ▸ hadded) hbackend
  listed backend hdiscovering :=
    h.listed backend (hcall _ backend hdiscovering rfl ▸ hdiscovering)
  pending hreg := h.pending (hregistered hreg)
  aimed changed target seen hphase :=
    ⟨(h.aimed changed target seen hphase).1,
      fun hreg => (h.aimed changed target seen hphase).2 (hregistered hreg)⟩
  alive hreg := h.alive (hregistered hreg)

theorem tended_new (client : ℕ) (call : Option BackendCall) (registered : Bool) :
    Tended client call registered {} where
  unspawned _ _ _ _ := rfl
  listed _ _ _ := Or.inl rfl
  pending _ _ := Or.inl rfl
  aimed _ _ _ hphase := by cases hphase
  alive _ := nofun

variable {changed : ListChanged}

theorem mem_queue_try_send (h : link.hasRoom = true ∨ changed ∈ link.queue) :
    changed ∈ (link.trySend changed).queue := by
  unfold Link.trySend
  dsimp only
  split
  next => exact List.mem_append_right _ (List.mem_singleton.2 rfl)
  next hfull =>
    rcases h with hroom | hmem
    · exact absurd hroom hfull
    · exact hmem

theorem mem_queue_of_mem {changed other : ListChanged} (h : other ∈ link.queue) :
    other ∈ (link.trySend changed).queue := by
  unfold Link.trySend
  dsimp only
  split
  next => exact List.mem_append_left _ h
  next => exact h

theorem notified_try_send_of_ne {changed other : ListChanged} (h : other ≠ changed) :
    (link.trySend changed).notified other = link.notified other :=
  Function.update_of_ne h _ _

theorem Tended.try_send (h : Tended client call registered link)
    (hkept : registered = true ∨ (∃ backend, call = some (.discovering backend)) →
      link.hasRoom = true ∨ changed ∈ link.queue) :
    Tended client call registered (link.trySend changed) where
  unspawned := h.unspawned
  listed backend hdiscovering other := by
    by_cases heq : other = changed
    · subst heq
      exact Or.inr (mem_queue_try_send (hkept (Or.inr ⟨backend, hdiscovering⟩)))
    · rw [notified_try_send_of_ne heq]
      exact (h.listed backend hdiscovering other).imp_right mem_queue_of_mem
  pending hreg other := by
    by_cases heq : other = changed
    · subst heq
      exact Or.inr (Or.inl (mem_queue_try_send (hkept (Or.inl hreg))))
    · rw [notified_try_send_of_ne heq]
      exact (h.pending hreg other).imp_right (Or.imp_left mem_queue_of_mem)
  aimed other target seen hphase := by
    obtain ⟨htarget, hseen⟩ := h.aimed other target seen hphase
    refine ⟨htarget, fun hreg => ?_⟩
    by_cases heq : other = changed
    · subst heq
      exact Or.inr (mem_queue_try_send (hkept (Or.inl hreg)))
    · rw [notified_try_send_of_ne heq]
      exact (hseen hreg).imp_right mem_queue_of_mem
  alive := h.alive

/-! ## Turns of a watcher -/

theorem Tended.go_on (h : Tended client call registered link) (hphase : link.phase ≠ .unspawned)
    {next : Link}
    (hpending : registered = true → ∀ changed, next.cached changed = next.notified changed ∨
      changed ∈ next.queue ∨ next.phase = .holding changed ∨
        ∃ target, next.phase = .refreshing changed target (next.notified changed))
    (haimed : ∀ changed target seen, next.phase = .refreshing changed target seen →
      target = client ∧ (registered = true → seen = next.notified changed ∨ changed ∈ next.queue))
    (halive : registered = true → next.phase ≠ .exited) : Tended client call registered next where
  unspawned added backend hadded hbackend :=
    absurd (h.unspawned added backend hadded hbackend) hphase
  listed backend hdiscovering := absurd (h.unspawned _ backend hdiscovering rfl) hphase
  pending := hpending
  aimed := haimed
  alive := halive

theorem Tended.pending_of_idle (h : Tended client call true link)
    (hphase : link.phase = .unspawned ∨ link.phase = .idle ∨ link.phase = .forwarding)
    (changed : ListChanged) :
    link.cached changed = link.notified changed ∨ changed ∈ link.queue := by
  rcases h.pending rfl changed with hcached | hmem | hholding | ⟨target, hrefreshing⟩
  · exact Or.inl hcached
  · exact Or.inr hmem
  · simp [hholding] at hphase
  · simp [hrefreshing] at hphase

theorem Tended.receive (h : Tended client call registered link) {rest : List ListChanged}
    (hphase : link.phase = .idle) (hqueue : link.queue = changed :: rest) :
    Tended client call registered { link with phase := .holding changed, queue := rest } := by
  refine h.go_on (by simp [hphase]) (fun hreg other => ?_) nofun nofun
  subst hreg
  rcases h.pending_of_idle (Or.inr (Or.inl hphase)) other with hcached | hmem
  · exact Or.inl hcached
  · rw [hqueue] at hmem
    rcases List.mem_cons.1 hmem with rfl | hrest
    · exact Or.inr (Or.inr (Or.inl rfl))
    · exact Or.inr (Or.inl hrest)

theorem Tended.refresh (h : Tended client call registered link)
    (hphase : link.phase = .holding changed) :
    Tended client call registered
      { link with phase := .refreshing changed client (link.notified changed) } := by
  refine h.go_on (by simp [hphase]) (fun hreg other => ?_) ?_ nofun
  · rcases h.pending hreg other with hcached | hmem | hholding | ⟨target, hrefreshing⟩
    · exact Or.inl hcached
    · exact Or.inr (Or.inl hmem)
    · rw [hphase] at hholding
      cases hholding
      exact Or.inr (Or.inr (Or.inr ⟨client, rfl⟩))
    · rw [hphase] at hrefreshing
      cases hrefreshing
  · intro other target seen hrefreshing
    cases hrefreshing
    exact ⟨rfl, fun _ => Or.inl rfl⟩

theorem Tended.refreshed (h : Tended client call registered link) {target seen : ℕ}
    (hphase : link.phase = .refreshing changed target seen) :
    Tended client call registered
      { link with cached := Function.update link.cached changed seen, phase := .forwarding } := by
  refine h.go_on (by simp [hphase]) (fun hreg other => ?_) nofun nofun
  show Function.update link.cached changed seen other = _ ∨ _
  by_cases heq : other = changed
  · subst heq
    rw [Function.update_self]
    exact ((h.aimed other target seen hphase).2 hreg).imp_right Or.inl
  · rw [Function.update_of_ne heq]
    rcases h.pending hreg other with hcached | hmem | hholding | ⟨target', hrefreshing⟩
    · exact Or.inl hcached
    · exact Or.inr (Or.inl hmem)
    · rw [hphase] at hholding
      cases hholding
    · rw [hphase] at hrefreshing
      cases hrefreshing
      exact absurd rfl heq

theorem Tended.forwarded (h : Tended client call registered link)
    (hphase : link.phase = .forwarding) :
    Tended client call registered { link with phase := .idle } := by
  refine h.go_on (by simp [hphase]) (fun hreg other => ?_) nofun nofun
  subst hreg
  exact (h.pending_of_idle (Or.inr (Or.inr hphase)) other).imp_right Or.inl

theorem Tended.exit (h : Tended client call false link) (hphase : link.phase = .holding changed) :
    Tended client call false { link with phase := .exited, queue := [] } :=
  h.go_on (by simp [hphase]) nofun nofun nofun

/-! ## Turns of an addition -/

variable {backend : Backend}

theorem Tended.listing (h : Tended client (some (.initializing backend)) registered link) :
    Tended client (some (.discovering backend)) registered
      { link with listed := link.notified } where
  unspawned _ _ _ _ := h.unspawned _ backend rfl rfl
  listed _ _ _ := Or.inl rfl
  pending := h.pending
  aimed := h.aimed
  alive := h.alive

theorem Tended.listed_first (h : Tended client (some (.discovering backend)) registered link)
    (registered' : Bool) :
    Tended client (some (.appending backend)) registered' { link with cached := link.listed } where
  unspawned _ _ _ _ := h.unspawned _ backend rfl rfl
  listed _ hdiscovering := by cases hdiscovering
  pending _ changed := (h.listed backend rfl changed).imp_right Or.inl
  aimed _ _ _ hrefreshing := by
    rw [h.unspawned _ backend rfl rfl] at hrefreshing
    cases hrefreshing
  alive _ hexited := by
    rw [h.unspawned _ backend rfl rfl] at hexited
    cases hexited

theorem Tended.spawned (h : Tended client (some (.appending backend)) registered link)
    (readding : Option String) (position : ℕ) :
    Tended client (some (.notifying readding)) registered { link with phase := .idle, position } where
  unspawned added other hadded hother := by
    cases hadded
    cases hother
  listed _ hdiscovering := by cases hdiscovering
  pending hreg changed := by
    subst hreg
    exact (h.pending_of_idle (Or.inl (h.unspawned _ backend rfl rfl)) changed).imp_right Or.inl
  aimed _ _ _ hrefreshing := by cases hrefreshing
  alive _ := nofun

/-! ## Steps -/

structure Kept (proxy : WatchedProxy) : Prop where
  sound : proxy.proxy.Sound
  tended : ∀ client link, proxy.links.lookup client = some link →
    Tended client (proxy.proxy.calls.get client) (proxy.isRegistered client) link
  aimed : ∀ refresh ∈ proxy.refreshes, refresh.target = refresh.watcher

variable {self next : WatchedProxy} {event : Event}

theorem is_registered_iff : self.isRegistered client = true ↔
    ∃ entry ∈ self.proxy.entries, entry.client = client := by
  simp [isRegistered, List.any_eq_true]

theorem is_registered_of_subset (h : next.proxy.entries ⊆ self.proxy.entries)
    (hregistered : next.isRegistered client = true) : self.isRegistered client = true := by
  obtain ⟨entry, hentry, hclient⟩ := is_registered_iff.1 hregistered
  exact is_registered_iff.2 ⟨entry, h hentry, hclient⟩

theorem Kept.modify (h : Kept self) {f : Link → Link}
    (hf : ∀ link, self.links.lookup client = some link →
      Tended client (self.proxy.calls.get client) (self.isRegistered client) (f link)) :
    Kept { self with links := self.links.modify client f } where
  sound := h.sound
  tended other link hlink := by
    rw [lookup_modify_eq_ite] at hlink
    split at hlink
    next heq =>
      subst heq
      obtain ⟨old, hold, rfl⟩ := Option.map_eq_some_iff.1 hlink
      exact hf old hold
    next => exact h.tended other link hlink
  aimed := h.aimed

theorem Kept.notify (h : Kept self) (hharmless : self.isHarmless (.notify client changed) = true) :
    Kept { self with links := self.links.modify client fun link => link.trySend changed } := by
  refine h.modify fun link hlink => (h.tended client link hlink).try_send fun hconcerned => ?_
  have hmatters : self.isConcerned client = true := by
    unfold isConcerned
    rw [Bool.or_eq_true]
    rcases hconcerned with hregistered | ⟨backend, hdiscovering⟩
    · exact Or.inl hregistered
    · rw [hdiscovering]
      exact Or.inr rfl
  simpa [isHarmless, hlink, hmatters] using hharmless

theorem Kept.watch (h : Kept self) {link : Link} (hlink : self.links.lookup client = some link)
    (hharmless : self.isHarmless (.watch client) = true)
    (hwatch : self.watch client link = some next) : Kept next := by
  have htended := h.tended client link hlink
  have honly {f : Link → Link} (hf : Tended client (self.proxy.calls.get client)
      (self.isRegistered client) (f link)) : Kept { self with links := self.links.modify client f } :=
    h.modify fun other hother => Option.some.inj (hlink.symm.trans hother) ▸ hf
  cases turn_of_watch hwatch with
  | received changed rest hphase hqueue => exact honly (htended.receive hphase hqueue)
  | exited changed hphase hposition =>
    have hgone : self.isRegistered client = false := by
      simpa [isHarmless, hlink, hphase, hposition] using hharmless
    refine honly ?_
    rw [hgone] at htended ⊢
    exact htended.exit hphase
  | started changed backend hphase hposition =>
    have hown : backend.client = client := by
      simpa [isHarmless, hlink, hphase, hposition] using hharmless
    have hseen : self.seen client changed = link.notified changed := by
      simp [seen, hlink]
    rw [hown, hseen]
    refine { honly (htended.refresh hphase) with aimed := fun refresh hrefresh => ?_ }
    rcases List.mem_append.1 hrefresh with hold | hnew
    · exact h.aimed refresh hold
    · rw [List.mem_singleton.1 hnew]
  | refreshed changed target seen hphase =>
    obtain ⟨rfl, _⟩ := htended.aimed changed target seen hphase
    refine { h with tended := fun other found hfound => ?_ }
    rw [lookup_modify_eq_ite, lookup_modify_eq_ite, lookup_modify_eq_ite,
      if_pos rfl, hlink] at hfound
    split at hfound
    next heq =>
      subst heq
      cases hfound
      exact htended.refreshed hphase
    next => exact h.tended other found hfound
  | forwarded hphase => exact honly (htended.forwarded hphase)

theorem lookup_follow_call_of_ne {before after : Option BackendCall} {ticket position : ℕ}
    {links : FinMap ℕ Link} (h : client ≠ ticket) :
    (followCall before after ticket position links).lookup client = links.lookup client := by
  unfold followCall
  split
  · rw [lookup_insert_eq_ite, if_neg h]
  · rw [lookup_modify_eq_ite, if_neg h]
  · rw [lookup_modify_eq_ite, if_neg h]
  · rw [lookup_modify_eq_ite, if_neg h]
  · rfl

theorem follow_call_none (before : Option BackendCall) (ticket position : ℕ)
    (links : FinMap ℕ Link) : followCall before none ticket position links = links := by
  cases before with
  | none => rfl
  | some call => cases call <;> rfl

variable {proxy : McpProxy}

theorem Kept.begin (h : Kept self) {operation : BackendOperation}
    (hstep : self.proxy.step (.begin operation) = some proxy) : Kept { self with proxy } := by
  refine { h with sound := h.sound.step hstep, tended := fun other link hlink => ?_ }
  have htended := h.tended other link hlink
  have hstarted {call : BackendCall} (hcall : call.backend = none) :
      ∀ added backend, (self.proxy.calls.start call).get other = some added →
        added.backend = some backend →
          (self.proxy.calls.start call).get other = self.proxy.calls.get other := by
    intro added backend hadded hbackend
    rw [get_start_eq_ite] at hadded ⊢
    split at hadded
    next =>
      cases hadded
      rw [hcall] at hbackend
      cases hbackend
    next hne => rw [if_neg hne]
  cases McpProxy.turn_of_step hstep with
  | refused operation => exact htended
  | entered operation ns hvalid => exact htended.mono id (hstarted rfl)
  | detached operation ns replacing =>
    exact htended.mono (is_registered_of_subset (List.filter_subset_self _)) (hstarted rfl)

theorem others_of_resume (hsound : self.proxy.Sound) {ticket : ℕ} {ok : Bool}
    (hstep : self.proxy.step (.resume ticket ok) = some proxy) {links : FinMap ℕ Link}
    (h : client ≠ ticket) : proxy.calls.get client = self.proxy.calls.get client ∧
      (isRegistered { self with proxy, links } client = true → self.isRegistered client = true) := by
  cases McpProxy.turn_of_step hstep with
  | ended ticket ok call hcall hdiscovering happending hremoving =>
    exact ⟨by rw [get_finish_eq_ite, if_neg h], id⟩
  | connected ticket ok ns hcall => exact ⟨by rw [get_become_eq_ite, if_neg h], id⟩
  | initialized ticket ok backend hcall => exact ⟨by rw [get_become_eq_ite, if_neg h], id⟩
  | registered ticket ok backend hcall =>
    refine ⟨by rw [get_become_eq_ite, if_neg h], fun hregistered => ?_⟩
    obtain ⟨entry, hentry, hclient⟩ := is_registered_iff.1 hregistered
    rcases List.mem_append.1 hentry with hold | hnew
    · exact is_registered_iff.2 ⟨entry, hold, hclient⟩
    · have hticket := (hsound.pending ticket _ backend hcall rfl).2
      rw [List.mem_singleton.1 hnew] at hclient
      exact absurd (hclient.symm.trans hticket) h
  | appended ticket ok backend hcall => exact ⟨by rw [get_become_eq_ite, if_neg h], id⟩
  | dropped ticket ok ns replacing hcall => exact ⟨by rw [get_become_eq_ite, if_neg h], id⟩
  | reentered ticket ok ns hcall => exact ⟨by rw [get_become_eq_ite, if_neg h], id⟩

theorem tended_of_resume {ticket : ℕ} {ok : Bool}
    (htended : ∀ link, self.links.lookup ticket = some link →
      Tended ticket (self.proxy.calls.get ticket) (self.isRegistered ticket) link)
    (hstep : self.proxy.step (.resume ticket ok) = some proxy) {link : Link}
    (hlink : (self.linksAfter (.resume ticket ok) proxy).lookup ticket = some link) :
    Tended ticket (proxy.calls.get ticket)
      (isRegistered { self with proxy, links := self.linksAfter (.resume ticket ok) proxy } ticket)
      link := by
  unfold linksAfter at hlink
  cases McpProxy.turn_of_step hstep with
  | ended ticket ok call hcall hdiscovering happending hremoving =>
    have hnone : (self.proxy.calls.finish ticket).get ticket = none := by
      rw [get_finish_eq_ite, if_pos rfl]
    simp only [hnone, follow_call_none] at hlink ⊢
    exact (htended link hlink).mono id nofun
  | connected ticket ok ns hcall =>
    simp only [hcall, get_become_self, followCall, lookup_insert_eq_ite, if_true]
      at hlink
    cases hlink
    exact tended_new ticket _ _
  | initialized ticket ok backend hcall =>
    simp only [hcall, get_become_self, followCall, lookup_modify_eq_ite, if_true]
      at hlink ⊢
    obtain ⟨old, hold, rfl⟩ := Option.map_eq_some_iff.1 hlink
    have hold := htended old hold
    rw [hcall] at hold
    exact hold.listing
  | registered ticket ok backend hcall =>
    simp only [hcall, get_become_self, followCall, lookup_modify_eq_ite, if_true]
      at hlink ⊢
    obtain ⟨old, hold, rfl⟩ := Option.map_eq_some_iff.1 hlink
    have hold := htended old hold
    rw [hcall] at hold
    exact hold.listed_first _
  | appended ticket ok backend hcall =>
    simp only [hcall, get_become_self, followCall, lookup_modify_eq_ite, if_true]
      at hlink ⊢
    obtain ⟨old, hold, rfl⟩ := Option.map_eq_some_iff.1 hlink
    have hold := htended old hold
    rw [hcall] at hold
    exact hold.spawned none _
  | dropped ticket ok ns replacing hcall =>
    simp only [hcall, get_become_self, followCall] at hlink ⊢
    exact (htended link hlink).mono id fun _ _ hadded hbackend => by cases hadded; cases hbackend
  | reentered ticket ok ns hcall =>
    simp only [hcall, get_become_self, followCall] at hlink ⊢
    exact (htended link hlink).mono id fun _ _ hadded hbackend => by cases hadded; cases hbackend

theorem Kept.resume (h : Kept self) {ticket : ℕ} {ok : Bool}
    (hstep : self.proxy.step (.resume ticket ok) = some proxy) :
    Kept { self with proxy, links := self.linksAfter (.resume ticket ok) proxy } := by
  refine { h with sound := h.sound.step hstep, tended := fun other link hlink => ?_ }
  by_cases hother : other = ticket
  · subst hother
    exact tended_of_resume (h.tended other) hstep hlink
  · obtain ⟨hcalls, hregistered⟩ := others_of_resume h.sound hstep hother
    have hsame : self.links.lookup other = some link := by
      rw [← hlink]
      exact (lookup_follow_call_of_ne hother).symm
    exact (h.tended other link hsame).mono hregistered fun _ _ _ _ => hcalls

theorem Kept.step (h : Kept self) (hharmless : self.isHarmless event = true)
    (hstep : step self event = some next) : Kept next := by
  cases event with
  | call event =>
    unfold WatchedProxy.step at hstep
    dsimp only at hstep
    split at hstep
    next => cases hstep
    next =>
      obtain ⟨proxy, hproxy, rfl⟩ := Option.map_eq_some_iff.1 hstep
      cases event with
      | begin operation => exact h.begin hproxy
      | resume ticket ok => exact h.resume hproxy
  | notify client changed =>
    obtain ⟨_, hnext⟩ := Option.ite_none_right_eq_some.1 hstep
    cases hnext
    exact h.notify hharmless
  | watch client =>
    obtain ⟨link, hlink, hwatch⟩ := Option.bind_eq_some_iff.1 hstep
    exact h.watch hlink hharmless hwatch

theorem Kept.followed (h : Kept self) : Followed self where
  fresh client link hlink hregistered hquiet changed := by
    obtain ⟨hempty, hphase⟩ := hquiet
    have htended := h.tended client link hlink
    rw [hregistered] at htended
    have hidle : link.phase = .idle := hphase.resolve_right (htended.alive rfl)
    refine (htended.pending_of_idle (Or.inr (Or.inl hidle)) changed).resolve_right fun hmem => ?_
    rw [hempty] at hmem
    cases hmem
  aimed := h.aimed

end WatchedProxy

/-! ## Progress -/

namespace McpProxy

/-- The addition of a client whose entry is registered has yet to append it or to notify, if it is in
flight. -/
def Entered (proxy : McpProxy) : Prop :=
  ∀ entry ∈ proxy.entries, entry.client < proxy.calls.next ∧
    ∀ call, proxy.calls.get entry.client = some call →
      (∃ backend, call = .appending backend) ∨ call = .notifying none

variable {self next : McpProxy} {event : Event}

theorem Entered.start (h : Entered self) (call : BackendCall) {entries : List BackendEntry}
    (hentries : entries ⊆ self.entries) :
    Entered { self with entries, calls := self.calls.start call } := by
  intro entry hentry
  obtain ⟨hlt, hcalls⟩ := h entry (hentries hentry)
  refine ⟨Nat.lt_succ_of_lt hlt, fun held hget => ?_⟩
  rw [get_start_eq_ite, if_neg (Nat.ne_of_lt hlt)] at hget
  exact hcalls held hget

theorem Entered.become (h : Entered self) {ticket : ℕ} {old : BackendCall}
    (hold : self.calls.get ticket = some old) (happending : ∀ backend, old ≠ .appending backend)
    (hnotifying : old ≠ .notifying none) (call : BackendCall) :
    Entered { self with calls := self.calls.become ticket call } := by
  intro entry hentry
  obtain ⟨hlt, hcalls⟩ := h entry hentry
  refine ⟨hlt, fun held hget => ?_⟩
  have hne : entry.client ≠ ticket := by
    intro heq
    rw [← heq] at hold
    rcases hcalls old hold with ⟨backend, hbackend⟩ | hdone
    · exact happending backend hbackend
    · exact hnotifying hdone
  rw [get_become_eq_ite, if_neg hne] at hget
  exact hcalls held hget

theorem Entered.step (hsound : Sound self) (h : Entered self) (hstep : step self event = some next) :
    Entered next := by
  cases turn_of_step hstep with
  | refused operation => exact h
  | entered operation ns hvalid => exact h.start _ (List.Subset.refl _)
  | detached operation ns replacing => exact h.start _ (List.filter_subset_self _)
  | ended ticket ok call hcall hdiscovering happending hremoving =>
    intro entry hentry
    refine ⟨(h entry hentry).1, fun held hget => ?_⟩
    rw [get_finish_eq_ite] at hget
    exact (h entry hentry).2 held (Option.ite_none_left_eq_some.1 hget).2
  | connected ticket ok ns hcall => exact h.become hcall nofun nofun _
  | initialized ticket ok backend hcall => exact h.become hcall nofun nofun _
  | registered ticket ok backend hcall =>
    intro entry hentry
    rcases List.mem_append.1 hentry with hold | hnew
    · exact h.become hcall nofun nofun (.appending backend) entry hold
    · have hclient : entry.client = ticket := by
        rw [List.mem_singleton.1 hnew]
        exact (hsound.pending ticket _ backend hcall rfl).2
      rw [hclient]
      refine ⟨hsound.numbered ticket _ hcall, fun held hget => Or.inl ⟨backend, ?_⟩⟩
      rw [get_become_self] at hget
      exact (Option.some.inj hget).symm
  | appended ticket ok backend hcall =>
    intro entry hentry
    obtain ⟨hlt, hcalls⟩ := h entry hentry
    refine ⟨hlt, fun held hget => ?_⟩
    rw [get_become_eq_ite] at hget
    split at hget
    next =>
      cases hget
      exact Or.inr rfl
    next => exact hcalls held hget
  | dropped ticket ok ns replacing hcall => exact h.become hcall nofun nofun _
  | reentered ticket ok ns hcall => exact h.become hcall nofun nofun _

end McpProxy

namespace WatchedProxy

variable {self next final : WatchedProxy} {event : Event} {client : ℕ} {link : Link}
  {changed : ListChanged}

def Link.Pending (link : Link) (changed : ListChanged) : Prop :=
  changed ∈ link.queue ∨ link.phase = .holding changed

def WatcherPhase.lag : WatcherPhase → ℕ
  | .unspawned | .idle | .exited => 0
  | .forwarding => 1
  | .refreshing _ _ _ => 2
  | .holding _ => 3

def Link.wait (link : Link) (changed : ListChanged) : ℕ :=
  if link.phase = .holding changed then 1
  else WatcherPhase.lag link.phase + 4 * link.queue.idxOf changed + 2

theorem wait_pos (link : Link) (changed : ListChanged) : 0 < Link.wait link changed := by
  unfold Link.wait
  split
  next => exact Nat.one_pos
  next => omega

def Link.work (link : Link) : ℕ :=
  WatcherPhase.lag link.phase + 4 * link.queue.length

theorem wait_le_work (h : changed ∈ link.queue) : Link.wait link changed ≤ Link.work link := by
  have hidx := List.idxOf_lt_length_of_mem h
  unfold Link.wait Link.work
  split
  next => omega
  next => omega

theorem wait_try_send (h : Link.Pending link changed) (other : ListChanged) :
    Link.Pending (link.trySend other) changed ∧
      Link.wait (link.trySend other) changed = Link.wait link changed ∧
        link.notified changed ≤ (link.trySend other).notified changed := by
  refine ⟨h.imp_left mem_queue_of_mem, ?_, ?_⟩
  · unfold Link.wait Link.trySend
    dsimp only
    split
    next => rfl
    next hphase =>
      have hmem := h.resolve_right hphase
      split
      next => rw [List.idxOf_append_of_mem hmem]
      next => rfl
  · show link.notified changed ≤
      Function.update link.notified other (link.notified other + 1) changed
    by_cases heq : changed = other
    · subst heq
      rw [Function.update_self]
      omega
    · rw [Function.update_of_ne heq]

theorem proxy_of_watch (h : self.watch client link = some next) :
    next.proxy = self.proxy ∧ self.refreshes ⊆ next.refreshes := by
  cases turn_of_watch h with
  | received | exited | refreshed | forwarded => exact ⟨rfl, List.Subset.refl _⟩
  | started => exact ⟨rfl, List.subset_append_left _ _⟩

theorem refreshes_subset_of_step (hstep : step self event = some next) :
    self.refreshes ⊆ next.refreshes := by
  cases event with
  | call event =>
    unfold WatchedProxy.step at hstep
    dsimp only at hstep
    split at hstep
    next => cases hstep
    next =>
      obtain ⟨proxy, _, rfl⟩ := Option.map_eq_some_iff.1 hstep
      exact List.Subset.refl _
  | notify client changed =>
    obtain ⟨_, hnext⟩ := Option.ite_none_right_eq_some.1 hstep
    cases hnext
    exact List.Subset.refl _
  | watch client =>
    obtain ⟨link, _, hwatch⟩ := Option.bind_eq_some_iff.1 hstep
    exact (proxy_of_watch hwatch).2

structure Served (proxy : WatchedProxy) : Prop extends Kept proxy where
  entered : proxy.proxy.Entered

theorem Served.step (h : Served self) (hharmless : self.isHarmless event = true)
    (hstep : step self event = some next) : Served next := by
  refine ⟨h.toKept.step hharmless hstep, ?_⟩
  cases event with
  | call event =>
    unfold WatchedProxy.step at hstep
    dsimp only at hstep
    split at hstep
    next => cases hstep
    next =>
      obtain ⟨proxy, hproxy, rfl⟩ := Option.map_eq_some_iff.1 hstep
      exact h.entered.step h.sound hproxy
  | notify client changed =>
    obtain ⟨_, hnext⟩ := Option.ite_none_right_eq_some.1 hstep
    cases hnext
    exact h.entered
  | watch client =>
    obtain ⟨link, _, hwatch⟩ := Option.bind_eq_some_iff.1 hstep
    rw [(proxy_of_watch hwatch).1]
    exact h.entered

/-- A refresh of a kind that a client's own watcher has started for it, after so many of its
notifications. -/
def Refreshed (proxy : WatchedProxy) (client : ℕ) (changed : ListChanged) (count : ℕ) : Prop :=
  ∃ refresh ∈ proxy.refreshes, refresh.watcher = client ∧ refresh.target = client ∧
    refresh.changed = changed ∧ count ≤ refresh.seen

structure Awaits (proxy : WatchedProxy) (client : ℕ) (changed : ListChanged) (count turns : ℕ)
    (link : Link) : Prop where
  held : proxy.links.lookup client = some link
  pending : Link.Pending link changed
  counted : count ≤ link.notified changed
  near : Link.wait link changed ≤ turns

variable {count turns : ℕ}

theorem Awaits.resume (h : Served self) (hregistered : self.isRegistered client = true)
    (hawaits : Awaits self client changed count turns link) {ticket : ℕ} {ok : Bool}
    {proxy : McpProxy} (hstep : self.proxy.step (.resume ticket ok) = some proxy) :
    ∃ link, Awaits { self with proxy, links := self.linksAfter (.resume ticket ok) proxy } client
      changed count turns link := by
  obtain ⟨hheld, hpending, hcounted, hnear⟩ := hawaits
  by_cases hclient : client = ticket
  · subst hclient
    obtain ⟨entry, hentry, hentered⟩ := is_registered_iff.1 hregistered
    have hcalls := (h.entered entry hentry).2
    rw [hentered] at hcalls
    -- Only the last two points of an addition come after its entry.
    have hlate {call : BackendCall} (hcall : self.proxy.calls.get client = some call) :
        (∃ backend, call = .appending backend) ∨ call = .notifying none := hcalls call hcall
    cases McpProxy.turn_of_step hstep with
    | ended ticket ok call hcall hdiscovering happending hremoving =>
      have hnone : (self.proxy.calls.finish client).get client = none := by
        rw [get_finish_eq_ite, if_pos rfl]
      refine ⟨link, ?_, hpending, hcounted, hnear⟩
      simp only [linksAfter, hnone, follow_call_none]
      exact hheld
    | appended ticket ok backend hcall =>
      have hunspawned := (h.tended client link hheld).unspawned _ backend hcall rfl
      refine ⟨{ link with phase := .idle, position := self.proxy.backends.length }, ?_, ?_,
        hcounted, ?_⟩
      · simp only [linksAfter, hcall, get_become_self, followCall,
          lookup_modify_eq_ite, if_true, hheld, Option.map_some]
      · rw [Link.Pending, hunspawned] at hpending
        exact Or.inl (hpending.resolve_right nofun)
      · simpa [Link.wait, hunspawned, WatcherPhase.lag] using hnear
    | connected ticket ok ns hcall => simpa using hlate hcall
    | initialized ticket ok backend hcall => simpa using hlate hcall
    | registered ticket ok backend hcall => simpa using hlate hcall
    | dropped ticket ok ns replacing hcall => simpa using hlate hcall
    | reentered ticket ok ns hcall => simpa using hlate hcall
  · refine ⟨link, ?_, hpending, hcounted, hnear⟩
    rw [← hheld]
    exact lookup_follow_call_of_ne hclient

theorem Awaits.watch (h : Served self) (hregistered : self.isRegistered client = true)
    (hawaits : Awaits self client changed count (turns + 1) link)
    (hharmless : self.isHarmless (.watch client) = true)
    (hwatch : self.watch client link = some next) :
    (∃ link, Awaits next client changed count turns link) ∨ Refreshed next client changed count := by
  obtain ⟨hheld, hpending, hcounted, hnear⟩ := hawaits
  have hmodified (f : Link → Link) : (self.links.modify client f).lookup client = some (f link) := by
    rw [lookup_modify_eq_ite, if_pos rfl, hheld, Option.map_some]
  cases turn_of_watch hwatch with
  | received received rest hphase hqueue =>
    refine Or.inl ⟨_, hmodified _, ?_, hcounted, ?_⟩
    · rw [Link.Pending, hqueue, hphase, List.mem_cons] at hpending
      rcases hpending.resolve_right nofun with rfl | hrest
      · exact Or.inr rfl
      · exact Or.inl hrest
    · unfold Link.wait at hnear ⊢
      rw [hphase, if_neg nofun, hqueue, List.idxOf_cons] at hnear
      by_cases heq : received = changed
      · rw [if_pos (by rw [heq])]
        simp [heq, WatcherPhase.lag] at hnear
        omega
      · have hother : (received == changed) = false := beq_eq_false_iff_ne.2 heq
        rw [if_neg (by simpa using heq)]
        simp [hother, WatcherPhase.lag] at hnear ⊢
        omega
  | exited received hphase hposition =>
    simp [isHarmless, hheld, hphase, hposition, hregistered] at hharmless
  | started received backend hphase hposition =>
    have hown : backend.client = client := by
      simpa [isHarmless, hheld, hphase, hposition] using hharmless
    by_cases heq : received = changed
    · refine Or.inr ⟨_, List.mem_append_right _ (List.mem_singleton.2 rfl), rfl, hown, heq, ?_⟩
      show count ≤ self.seen backend.client received
      rw [hown, heq]
      simpa [seen, hheld] using hcounted
    · refine Or.inl ⟨_, hmodified _, ?_, hcounted, ?_⟩
      · rw [Link.Pending, hphase] at hpending
        exact Or.inl (hpending.resolve_right (by simpa using heq))
      · unfold Link.wait at hnear ⊢
        rw [hphase, if_neg (by simpa using heq)] at hnear
        rw [if_neg nofun]
        simp [WatcherPhase.lag] at hnear ⊢
        omega
  | refreshed received target seen hphase =>
    obtain ⟨rfl, _⟩ := (h.tended client link hheld).aimed received target seen hphase
    refine Or.inl ⟨{ link with
      cached := Function.update link.cached received seen, phase := .forwarding }, ?_, ?_, hcounted,
        ?_⟩
    · rw [lookup_modify_eq_ite, if_pos rfl, hmodified, Option.map_some]
    · rw [Link.Pending, hphase] at hpending
      exact Or.inl (hpending.resolve_right nofun)
    · unfold Link.wait at hnear ⊢
      rw [hphase, if_neg nofun] at hnear
      rw [if_neg nofun]
      simp [WatcherPhase.lag] at hnear ⊢
      omega
  | forwarded hphase =>
    refine Or.inl ⟨_, hmodified _, ?_, hcounted, ?_⟩
    · rw [Link.Pending, hphase] at hpending
      exact Or.inl (hpending.resolve_right nofun)
    · unfold Link.wait at hnear ⊢
      rw [hphase, if_neg nofun] at hnear
      rw [if_neg nofun]
      simp [WatcherPhase.lag] at hnear ⊢
      omega

theorem Awaits.watch_other (h : Served self) (hawaits : Awaits self client changed count turns link)
    {other : ℕ} (hne : client ≠ other) {link' : Link}
    (hlink' : self.links.lookup other = some link') (hwatch : self.watch other link' = some next) :
    Awaits next client changed count turns link := by
  refine ⟨?_, hawaits.pending, hawaits.counted, hawaits.near⟩
  cases turn_of_watch hwatch with
  | received | exited | started | forwarded =>
    rw [lookup_modify_eq_ite, if_neg hne]
    exact hawaits.held
  | refreshed received target seen hphase =>
    obtain ⟨rfl, _⟩ := (h.tended other link' hlink').aimed received target seen hphase
    rw [lookup_modify_eq_ite, if_neg hne, lookup_modify_eq_ite, if_neg hne]
    exact hawaits.held

theorem Awaits.step (h : Served self) (hregistered : self.isRegistered client = true)
    (hawaits : Awaits self client changed count (turns + [event].count (.watch client)) link)
    (hharmless : self.isHarmless event = true) (hstep : step self event = some next) :
    (∃ link, Awaits next client changed count turns link) ∨ Refreshed next client changed count := by
  cases event with
  | call event =>
    have hawaits : Awaits self client changed count turns link := hawaits
    unfold WatchedProxy.step at hstep
    dsimp only at hstep
    split at hstep
    next => cases hstep
    next =>
      obtain ⟨proxy, hproxy, rfl⟩ := Option.map_eq_some_iff.1 hstep
      cases event with
      | begin operation =>
        exact Or.inl ⟨link, hawaits.held, hawaits.pending, hawaits.counted, hawaits.near⟩
      | resume ticket ok => exact Or.inl (hawaits.resume h hregistered hproxy)
  | notify other received =>
    have hawaits : Awaits self client changed count turns link := hawaits
    obtain ⟨_, hnext⟩ := Option.ite_none_right_eq_some.1 hstep
    cases hnext
    by_cases heq : client = other
    · subst heq
      obtain ⟨hpending, hwait, hcounted⟩ := wait_try_send hawaits.pending received
      refine Or.inl ⟨link.trySend received, ?_, hpending, hawaits.counted.trans hcounted,
        hwait ▸ hawaits.near⟩
      rw [lookup_modify_eq_ite, if_pos rfl, hawaits.held, Option.map_some]
    · refine Or.inl ⟨link, ?_, hawaits.pending, hawaits.counted, hawaits.near⟩
      rw [lookup_modify_eq_ite, if_neg heq]
      exact hawaits.held
  | watch other =>
    obtain ⟨link', hlink', hwatch⟩ := Option.bind_eq_some_iff.1 hstep
    by_cases heq : client = other
    · subst heq
      cases hlink'.symm.trans hawaits.held
      rw [List.count_singleton_self] at hawaits
      exact hawaits.watch h hregistered hharmless hwatch
    · have hcount : [Event.watch other].count (.watch client) = 0 :=
        List.count_eq_zero.2 (by simpa using heq)
      rw [hcount, Nat.add_zero] at hawaits
      exact Or.inl ⟨link, hawaits.watch_other h heq hlink' hwatch⟩

theorem Refreshed.of_run {count : ℕ} {events : List Event}
    (h : Refreshed self client changed count) (hrun : run step self events = some final) :
    Refreshed final client changed count := by
  have hkeeps : ∀ proxy event next, Refreshed proxy client changed count →
      WatchedProxy.step proxy event = some next → Refreshed next client changed count := by
    rintro proxy event next ⟨refresh, hmem, hrefresh⟩ hstep
    exact ⟨refresh, refreshes_subset_of_step hstep hmem, hrefresh⟩
  exact run_invariant hkeeps h hrun

theorem Awaits.run (h : Served self) {events : List Event}
    (halong : Along WatchedProxy.step (fun proxy event => proxy.isHarmless event = true) self events)
    (hregistered :
      Throughout WatchedProxy.step (fun proxy => proxy.isRegistered client = true) self events)
    {count : ℕ} (hawaits : Awaits self client changed count (events.count (.watch client)) link)
    (hrun : Execution.run WatchedProxy.step self events = some final) :
    Refreshed final client changed count := by
  induction events generalizing self link with
  | nil =>
    have hpositive := wait_pos link changed
    have hnear := hawaits.near
    rw [List.count_nil] at hnear
    omega
  | cons event rest ih =>
    obtain ⟨next, hnext, hrest⟩ := run_cons.1 hrun
    obtain ⟨hharmless, htail⟩ := halong
    obtain ⟨hhere, hlater⟩ := hregistered
    rw [hnext] at htail hlater
    rw [← List.singleton_append, List.count_append, Nat.add_comm] at hawaits
    rcases hawaits.step h hhere hharmless hnext with ⟨link, hawaits⟩ | hrefreshed
    · exact ih (h.step hharmless hnext) htail hlater hawaits hrest
    · exact hrefreshed.of_run hrest

/-! ## Runs -/

variable {pending : List PendingBackend}

theorem lookup_watchers_of (h : (watchersOf pending).lookup client = some link) :
    link = { phase := .idle, position := client } := by
  have hfold : ∀ (backends : List (PendingBackend × ℕ)) (links : FinMap ℕ Link),
      (∀ other held, links.lookup other = some held →
        held = { phase := .idle, position := other }) →
      (backends.foldl (fun links backend =>
        links.insert backend.2 { phase := .idle, position := backend.2 }) links).lookup client =
          some link → link = { phase := .idle, position := client } := by
    intro backends
    induction backends with
    | nil => exact fun links hlinks hlookup => hlinks client link hlookup
    | cons backend rest ih =>
      intro links hlinks
      refine ih _ fun other held hheld => ?_
      rw [lookup_insert_eq_ite] at hheld
      split at hheld
      next heq =>
        cases hheld
        rw [heq]
      next => exact hlinks other held hheld
  exact hfold _ ∅ (fun _ _ hnone => by cases hnone) h

theorem served_of_start {separator : String} (h : start separator pending = .ok self) :
    Served self := by
  obtain ⟨proxy, hbuild, rfl⟩ := Fallible.map_eq_ok.1 h
  have hsound := McpProxy.sound_of_build hbuild
  refine ⟨⟨hsound, fun client link hlink => ?_, nofun⟩, ?_⟩
  · obtain ⟨-, rfl⟩ := McpProxy.build_eq_ok hbuild
    rw [lookup_watchers_of hlink]
    exact
      { unspawned := fun _ _ hadded => by cases hadded
        listed := fun _ hdiscovering => by cases hdiscovering
        pending := fun _ _ => Or.inl rfl
        aimed := fun _ _ _ hrefreshing => by cases hrefreshing
        alive := fun _ => nofun }
  · obtain ⟨-, rfl⟩ := McpProxy.build_eq_ok hbuild
    intro entry hentry
    obtain ⟨backend, hbackend, rfl⟩ := List.mem_map.1 hentry
    exact ⟨(hsound.spent backend hbackend).1, fun call hcall => by cases hcall⟩

/-- In a run whose steps are harmless the caches follow the notifications in every state. And each
notification leads to a refresh of the same backend's cache of its kind that starts after it: the
refresh has started once the watcher has had the turns it takes to work off what is in the channel,
provided that the backend stays registered. -/
theorem followed_of_harmless {separator : String} {pending : List PendingBackend}
    {first : WatchedProxy} (hstart : start separator pending = .ok first) {events : List Event}
    (halong : Along step (fun proxy event => proxy.isHarmless event = true) first events) :
    Throughout step Followed first events ∧
      ∀ before client changed after noted final, events = before ++ .notify client changed :: after →
        run step first (before ++ [.notify client changed]) = some noted →
          run step noted after = some final →
            Throughout step (fun proxy => proxy.isRegistered client = true) noted after →
              ∀ link, noted.links.lookup client = some link →
                Link.work link ≤ after.count (.watch client) →
                  Refreshed final client changed (link.notified changed) := by
  have hserved := served_of_start hstart
  have hkeeps : ∀ proxy event next, Served proxy → proxy.isHarmless event = true →
      step proxy event = some next → Served next :=
    fun _ _ _ h hharmless hstep => h.step hharmless hstep
  refine ⟨(throughout_of_along hkeeps hserved halong).mono fun _ h => h.followed, ?_⟩
  rintro before client changed after noted final rfl hnoted hfinal hregistered link hlink hturns
  obtain ⟨middle, hmiddle, hnotify⟩ := run_concat.1 hnoted
  have hmatters : noted.isRegistered client = true := hregistered.head
  have hharmless := (halong.tail hmiddle).1
  have hsplit : before ++ Event.notify client changed :: after =
      before ++ [.notify client changed] ++ after := by
    rw [List.append_assoc, List.singleton_append]
  rw [hsplit] at halong
  have hmem : changed ∈ link.queue := by
    obtain ⟨hsome, hnext⟩ := Option.ite_none_right_eq_some.1 hnotify
    obtain ⟨old, hold⟩ := Option.isSome_iff_exists.1 hsome
    cases hnext
    rw [lookup_modify_eq_ite, if_pos rfl, hold] at hlink
    cases hlink
    have hconcerned : middle.isConcerned client = true := by
      rw [isConcerned, Bool.or_eq_true]
      exact Or.inl hmatters
    exact mem_queue_try_send (by simpa [isHarmless, hold, hconcerned] using hharmless)
  exact Awaits.run (along_invariant hkeeps hserved halong.init hnoted) (halong.tail hnoted)
    hregistered ⟨hlink, Or.inl hmem, Nat.le_refl _, (wait_le_work hmem).trans hturns⟩ hfinal

/-! ### Sample runs -/

def samplePending : List PendingBackend := [{ ns := "a" }, { ns := "b" }, { ns := "c" }]

def sampleProxy : WatchedProxy where
  proxy :=
    { separator := "."
      entries := [{ ns := "a", separator := ".", client := 0 },
        { ns := "b", separator := ".", client := 1 }, { ns := "c", separator := ".", client := 2 }]
      backends := [{ ns := "a", separator := ".", client := 0 },
        { ns := "b", separator := ".", client := 1 }, { ns := "c", separator := ".", client := 2 }]
      calls := { next := 3 } }
  links := watchersOf samplePending

def removal (ns : String) : List Event :=
  [.call (.begin (.removeBackend ns)), .call (.resume 3 true)]

def notifyAndWatch : List Event :=
  [.notify 1 .tools, .watch 1, .watch 1, .watch 1, .watch 1]

theorem last_removed_followed : start "." samplePending = .ok sampleProxy ∧
    (run step sampleProxy (removal "c" ++ notifyAndWatch)).isSome = true ∧
      Throughout step Followed sampleProxy (removal "c" ++ notifyAndWatch) := by
  have hstart : start "." samplePending = .ok sampleProxy := rfl
  exact ⟨hstart, by decide +kernel, (followed_of_harmless hstart (by decide +kernel)).1⟩

/-- When the first backend is removed, a notification of the second refreshes the third, and what is
cached of the second stays as it was. -/
theorem removal_misdirects : start "." samplePending = .ok sampleProxy ∧
    ¬Throughout step Followed sampleProxy (removal "a" ++ notifyAndWatch) := by
  refine ⟨rfl, fun hall => ?_⟩
  obtain ⟨final, hrun, hrefreshes⟩ : ∃ final,
      run step sampleProxy (removal "a" ++ notifyAndWatch) = some final ∧
        final.refreshes = [{ watcher := 1, target := 2, changed := .tools, seen := 0 }] := by
    decide +kernel
  have haimed := (hall.last hrun).aimed
  rw [hrefreshes] at haimed
  exact absurd (haimed _ (List.mem_singleton.2 rfl)) (by decide)

end WatchedProxy

end TowerMcp
