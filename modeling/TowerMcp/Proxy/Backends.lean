import TowerMcp.Lib.Execution
import TowerMcp.Lib.Pool
import TowerMcp.Proxy.Routing

/-!
# The backends of a proxy

The two lists of a proxy and the calls that change them, after `proxy/service.rs` and
`proxy/builder.rs`. The entries are behind a mutex and the backends behind a lock that is awaited, and
an addition connects and initializes between its check and its registration. A call in flight is at a
point between two awaits, and an event lets one go on, so the events of a run are any interleaving.
`namespaces_of_ordered` is about every run.
-/

namespace TowerMcp

open Pool

/-- A connected backend. The number stands for its client and its cache: it is the ticket of the call
that has connected it. -/
structure Backend where
  ns : String
  separator : String
  client : ℕ
deriving DecidableEq

def BackendEntry.fromBackend (backend : Backend) : BackendEntry where
  ns := backend.ns
  separator := backend.separator
  client := backend.client

/-- A call in flight. An addition has passed its check when it is `connecting`; it then initializes,
lists the capabilities, and appends the backend once its entry is registered. A removal has removed
the entries. A replacement adds once it has removed and notified. -/
inductive BackendCall where
  | connecting (ns : String)
  | initializing (backend : Backend)
  | discovering (backend : Backend)
  | appending (backend : Backend)
  | removing (ns : String) (replacing : Bool)
  | notifying (readding : Option String)
deriving DecidableEq

def BackendCall.backend : BackendCall → Option Backend
  | .initializing backend | .discovering backend | .appending backend => some backend
  | _ => none

structure McpProxy where
  separator : String
  entries : List BackendEntry
  backends : List Backend
  calls : Pool BackendCall

inductive BackendOperation where
  | addBackend (ns : String)
  | addBackendWithLayer (ns : String)
  | removeBackend (ns : String)
  | replaceBackend (ns : String)
deriving DecidableEq

namespace McpProxy

/-- A call is made, or the call under a ticket goes on. The connection and the handshake fail unless
`ok`. -/
inductive Event where
  | begin (operation : BackendOperation)
  | resume (ticket : ℕ) (ok : Bool)
deriving DecidableEq

variable (self : McpProxy)

def enter (ns : String) : Option BackendCall :=
  match validateNamespace ns self.separator self.entries with
  | .ok () => some (.connecting ns)
  | .error _ => none

def launch (call : Option BackendCall) : McpProxy :=
  match call with
  | some call => { self with calls := self.calls.start call }
  | none => self

def moveOn (ticket : ℕ) (call : Option BackendCall) : McpProxy :=
  match call with
  | some call => { self with calls := self.calls.become ticket call }
  | none => { self with calls := self.calls.finish ticket }

def entriesWithout (ns : String) : List BackendEntry :=
  self.entries.filter fun entry => entry.ns ≠ ns

def begin (operation : BackendOperation) : McpProxy :=
  match operation with
  | .addBackend ns | .addBackendWithLayer ns => self.launch (self.enter ns)
  | .removeBackend ns =>
    if (self.entriesWithout ns).length < self.entries.length then
      { self with entries := self.entriesWithout ns }.launch (some (.removing ns false))
    else self
  | .replaceBackend ns =>
    if (self.entriesWithout ns).length < self.entries.length then
      { self with entries := self.entriesWithout ns }.launch (some (.removing ns true))
    else self.launch (self.enter ns)

def resume (ticket : ℕ) (ok : Bool) : BackendCall → McpProxy
  | .connecting ns =>
    self.moveOn ticket
      (if ok then some (.initializing { ns, separator := self.separator, client := ticket })
        else none)
  | .initializing backend =>
    self.moveOn ticket (if ok then some (.discovering backend) else none)
  | .discovering backend =>
    { self with entries := self.entries ++ [BackendEntry.fromBackend backend] }.moveOn ticket
      (some (.appending backend))
  | .appending backend =>
    { self with backends := self.backends ++ [backend] }.moveOn ticket (some (.notifying none))
  | .removing ns replacing =>
    { self with backends := self.backends.filter fun backend => backend.ns ≠ ns }.moveOn ticket
      (some (.notifying (if replacing then some ns else none)))
  | .notifying none => self.moveOn ticket none
  | .notifying (some ns) => self.moveOn ticket (self.enter ns)

def step (self : McpProxy) : Event → Option McpProxy
  | .begin operation => some (self.begin operation)
  | .resume ticket ok => (self.calls.get ticket).map (self.resume ticket ok)

def Idle : Prop :=
  ∀ ticket, self.calls.get ticket = none

end McpProxy

/-! ## Building a proxy -/

/-- A backend that is handed to the builder. It may have a watcher, and its initialization may fail. -/
structure PendingBackend where
  ns : String
  watched : Bool := true
  initializes : Bool := true
deriving DecidableEq

inductive BuildError where
  | noBackends
  | duplicateNamespaces
  | ambiguousPrefixes
  | allFailed
deriving DecidableEq

def ambiguousPrefixes (separator : String) (namespaces : List String) : Bool :=
  let prefixes := (namespaces.map fun ns => ns ++ separator).zipIdx
  prefixes.any fun first => prefixes.any fun second =>
    first.2 != second.2 && startsWith second.1 first.1

def initialized (separator : String) (pending : List PendingBackend) : List Backend :=
  (pending.filter fun backend => backend.initializes).mapIdx fun i backend =>
    { ns := backend.ns, separator, client := i }

def build (separator : String) (pending : List PendingBackend) : Except BuildError McpProxy :=
  let namespaces := pending.map fun backend => backend.ns
  if pending = [] then .error .noBackends
  else if ¬namespaces.Nodup then .error .duplicateNamespaces
  else if ambiguousPrefixes separator namespaces then .error .ambiguousPrefixes
  else
    let backends := initialized separator pending
    if backends = [] then .error .allFailed
    else
      .ok
        { separator, backends, entries := backends.map BackendEntry.fromBackend,
          calls := { next := backends.length } }

namespace McpProxy

/-! ## Steps -/

inductive Turn (proxy : McpProxy) : Event → McpProxy → Prop where
  | refused (operation) : Turn proxy (.begin operation) proxy
  | entered (operation ns) (hvalid : validateNamespace ns proxy.separator proxy.entries = .ok ()) :
      Turn proxy (.begin operation) { proxy with calls := proxy.calls.start (.connecting ns) }
  | detached (operation ns replacing) :
      Turn proxy (.begin operation)
        { proxy with
          entries := proxy.entriesWithout ns
          calls := proxy.calls.start (.removing ns replacing) }
  | ended (ticket ok call) (hcall : proxy.calls.get ticket = some call)
      (hdiscovering : ∀ backend, call ≠ .discovering backend)
      (happending : ∀ backend, call ≠ .appending backend)
      (hremoving : ∀ ns replacing, call ≠ .removing ns replacing) :
      Turn proxy (.resume ticket ok) { proxy with calls := proxy.calls.finish ticket }
  | connected (ticket ok ns) (hcall : proxy.calls.get ticket = some (.connecting ns)) :
      Turn proxy (.resume ticket ok)
        { proxy with
          calls := proxy.calls.become ticket
            (.initializing { ns, separator := proxy.separator, client := ticket }) }
  | initialized (ticket ok backend) (hcall : proxy.calls.get ticket = some (.initializing backend)) :
      Turn proxy (.resume ticket ok)
        { proxy with calls := proxy.calls.become ticket (.discovering backend) }
  | registered (ticket ok backend) (hcall : proxy.calls.get ticket = some (.discovering backend)) :
      Turn proxy (.resume ticket ok)
        { proxy with
          entries := proxy.entries ++ [BackendEntry.fromBackend backend]
          calls := proxy.calls.become ticket (.appending backend) }
  | appended (ticket ok backend) (hcall : proxy.calls.get ticket = some (.appending backend)) :
      Turn proxy (.resume ticket ok)
        { proxy with
          backends := proxy.backends ++ [backend]
          calls := proxy.calls.become ticket (.notifying none) }
  | dropped (ticket ok ns replacing) (hcall : proxy.calls.get ticket = some (.removing ns replacing)) :
      Turn proxy (.resume ticket ok)
        { proxy with
          backends := proxy.backends.filter fun backend => backend.ns ≠ ns
          calls := proxy.calls.become ticket (.notifying (if replacing then some ns else none)) }
  | reentered (ticket ok ns) (hcall : proxy.calls.get ticket = some (.notifying (some ns))) :
      Turn proxy (.resume ticket ok)
        { proxy with calls := proxy.calls.become ticket (.connecting ns) }

variable {self next : McpProxy} {event : Event}

theorem enter_eq_some {ns : String} {call : BackendCall} :
    self.enter ns = some call ↔
      validateNamespace ns self.separator self.entries = .ok () ∧ call = .connecting ns := by
  unfold enter
  cases validateNamespace ns self.separator self.entries with
  | error e => simp
  | ok _ => simp [eq_comm]

theorem turn_launch_enter (self : McpProxy) (operation : BackendOperation) (ns : String) :
    Turn self (.begin operation) (self.launch (self.enter ns)) := by
  cases henter : self.enter ns with
  | none => exact .refused operation
  | some call =>
    obtain ⟨hvalid, rfl⟩ := enter_eq_some.1 henter
    exact .entered operation ns hvalid

theorem turn_of_step (h : step self event = some next) : Turn self event next := by
  cases event with
  | begin operation =>
    cases h
    cases operation with
    | addBackend ns => exact turn_launch_enter self _ ns
    | addBackendWithLayer ns => exact turn_launch_enter self _ ns
    | removeBackend ns =>
      unfold begin
      dsimp only
      split
      next => exact .detached _ ns false
      next => exact .refused _
    | replaceBackend ns =>
      unfold begin
      dsimp only
      split
      next => exact .detached _ ns true
      next => exact turn_launch_enter self _ ns
  | resume ticket ok =>
    obtain ⟨call, hcall, rfl⟩ := Option.map_eq_some_iff.1 h
    cases call with
    | connecting ns =>
      cases ok with
      | false => exact .ended ticket _ _ hcall nofun nofun nofun
      | true => exact .connected ticket _ ns hcall
    | initializing backend =>
      cases ok with
      | false => exact .ended ticket _ _ hcall nofun nofun nofun
      | true => exact .initialized ticket _ backend hcall
    | discovering backend => exact .registered ticket ok backend hcall
    | appending backend => exact .appended ticket ok backend hcall
    | removing ns replacing => exact .dropped ticket ok ns replacing hcall
    | notifying readding =>
      cases readding with
      | none => exact .ended ticket ok _ hcall nofun nofun nofun
      | some ns =>
        show Turn self (.resume ticket ok) (self.moveOn ticket (self.enter ns))
        cases henter : self.enter ns with
        | none => exact .ended ticket ok _ hcall nofun nofun nofun
        | some call =>
          obtain ⟨_, rfl⟩ := enter_eq_some.1 henter
          exact .reentered ticket ok ns hcall

/-! ## Invariants -/

/-- What holds in every state of a run: all prefixes have the separator of the proxy, the client of an
addition has its ticket, and an addition whose backend is in the list only has to notify. -/
structure Sound (proxy : McpProxy) : Prop where
  numbered : proxy.calls.Numbered
  separators : ∀ entry ∈ proxy.entries, entry.separator = proxy.separator
  pending : ∀ ticket call backend, proxy.calls.get ticket = some call →
    call.backend = some backend → backend.separator = proxy.separator ∧ backend.client = ticket
  spent : ∀ backend ∈ proxy.backends, backend.client < proxy.calls.next ∧
    ∀ call, proxy.calls.get backend.client = some call → call = .notifying none
  nodup : (proxy.backends.map Backend.client).Nodup

theorem Sound.start (h : Sound self) {call : BackendCall} (hcall : call.backend = none)
    {entries : List BackendEntry} (hentries : ∀ entry ∈ entries, entry.separator = self.separator) :
    Sound { self with entries, calls := self.calls.start call } where
  numbered := h.numbered.start call
  separators := hentries
  pending ticket held backend hget hbackend := by
    rw [get_start_eq_ite] at hget
    split at hget
    next =>
      cases hget
      rw [hcall] at hbackend
      cases hbackend
    next => exact h.pending ticket held backend hget hbackend
  spent backend hbackend := by
    obtain ⟨hlt, hspent⟩ := h.spent backend hbackend
    refine ⟨Nat.lt_succ_of_lt hlt, fun held hget => ?_⟩
    rw [get_start_eq_ite, if_neg (Nat.ne_of_lt hlt)] at hget
    exact hspent held hget
  nodup := h.nodup

theorem Sound.become (h : Sound self) {ticket : ℕ} {old : BackendCall} (call : BackendCall)
    (hold : self.calls.get ticket = some old) (hunspent : old ≠ .notifying none)
    (hcall : ∀ backend, call.backend = some backend →
      backend.separator = self.separator ∧ backend.client = ticket)
    {entries : List BackendEntry} (hentries : ∀ entry ∈ entries, entry.separator = self.separator)
    {backends : List Backend} (hbackends : backends.Sublist self.backends) :
    Sound { self with entries, backends, calls := self.calls.become ticket call } where
  numbered := h.numbered.become hold call
  separators := hentries
  pending other held backend hget hbackend := by
    rw [get_become_eq_ite] at hget
    split at hget
    next heq =>
      cases hget
      rw [heq]
      exact hcall backend hbackend
    next => exact h.pending other held backend hget hbackend
  spent backend hbackend := by
    obtain ⟨hlt, hspent⟩ := h.spent backend (hbackends.subset hbackend)
    refine ⟨hlt, fun held hget => ?_⟩
    have hne : backend.client ≠ ticket := fun heq => hunspent (hspent old (heq ▸ hold))
    rw [get_become_eq_ite, if_neg hne] at hget
    exact hspent held hget
  nodup := h.nodup.sublist (hbackends.map _)

theorem Sound.step (h : Sound self) (hstep : step self event = some next) : Sound next := by
  cases turn_of_step hstep with
  | refused operation => exact h
  | entered operation ns hvalid => exact h.start rfl h.separators
  | detached operation ns replacing =>
    exact h.start rfl fun entry hentry => h.separators entry (List.mem_of_mem_filter hentry)
  | ended ticket ok call hcall hdiscovering happending hremoving =>
    exact
      { h with
        numbered := h.numbered.finish ticket
        pending := fun other held backend hget hbackend => by
          rw [get_finish_eq_ite] at hget
          exact h.pending other held backend (Option.ite_none_left_eq_some.1 hget).2 hbackend
        spent := fun backend hbackend => ⟨(h.spent backend hbackend).1, fun held hget => by
          rw [get_finish_eq_ite] at hget
          exact (h.spent backend hbackend).2 held (Option.ite_none_left_eq_some.1 hget).2⟩ }
  | connected ticket ok ns hcall =>
    refine h.become _ hcall nofun (fun backend hbackend => ?_) h.separators (List.Sublist.refl _)
    cases hbackend
    exact ⟨rfl, rfl⟩
  | initialized ticket ok backend hcall =>
    exact h.become (.discovering backend) hcall nofun
      (fun other hother => h.pending ticket (.initializing backend) other hcall hother)
      h.separators (List.Sublist.refl _)
  | registered ticket ok backend hcall =>
    have hpending := h.pending ticket _ backend hcall rfl
    refine h.become (.appending backend) hcall nofun
      (fun other hother => h.pending ticket (.discovering backend) other hcall hother)
      (fun entry hentry => ?_) (List.Sublist.refl _)
    rcases List.mem_append.1 hentry with hold | hnew
    · exact h.separators entry hold
    · rw [List.mem_singleton.1 hnew]
      exact hpending.1
  | appended ticket ok backend hcall =>
    obtain ⟨_, hclient⟩ := h.pending ticket _ backend hcall rfl
    have hbase : Sound { self with calls := self.calls.become ticket (.notifying none) } :=
      h.become _ hcall nofun (fun _ hnone => by cases hnone) h.separators
        (List.Sublist.refl _)
    refine { hbase with spent := fun other hother => ?_, nodup := ?_ }
    · rcases List.mem_append.1 hother with hold | hnew
      · exact hbase.spent other hold
      · rw [List.mem_singleton.1 hnew, hclient]
        refine ⟨h.numbered ticket _ hcall, fun held hget => ?_⟩
        rw [get_become_self] at hget
        exact (Option.some.inj hget).symm
    · rw [List.map_append, List.map_singleton, List.nodup_append]
      refine ⟨h.nodup, List.nodup_singleton _, fun client hmem other hother heq => ?_⟩
      obtain ⟨old, hold, rfl⟩ := List.mem_map.1 hmem
      rw [List.mem_singleton.1 hother, hclient] at heq
      cases (h.spent old hold).2 _ (heq ▸ hcall)
  | dropped ticket ok ns replacing hcall =>
    exact h.become _ hcall nofun (fun _ hnone => by cases hnone) h.separators
      List.filter_sublist
  | reentered ticket ok ns hcall =>
    exact h.become _ hcall nofun (fun _ hnone => by cases hnone) h.separators
      (List.Sublist.refl _)

variable {separator : String} {pending : List PendingBackend}

theorem build_eq_ok (h : build separator pending = .ok self) :
    ambiguousPrefixes separator (pending.map fun backend => backend.ns) = false ∧
      self = { separator, backends := initialized separator pending,
               entries := (initialized separator pending).map BackendEntry.fromBackend,
               calls := { next := (initialized separator pending).length } } := by
  unfold build at h
  dsimp only at h
  split at h
  next => cases h
  next =>
    split at h
    next => cases h
    next =>
      split at h
      next => cases h
      next hclear =>
        split at h
        next => cases h
        next =>
          cases h
          exact ⟨Bool.eq_false_iff.2 hclear, rfl⟩

theorem map_client_initialized (separator : String) (pending : List PendingBackend) :
    (initialized separator pending).map Backend.client =
      List.range (initialized separator pending).length := by
  unfold initialized
  refine List.ext_getElem (by simp) fun i _ _ => ?_
  simp

theorem sound_of_build (h : build separator pending = .ok self) : Sound self := by
  obtain ⟨-, rfl⟩ := build_eq_ok h
  have hclients := map_client_initialized separator pending
  refine ⟨fun ticket call hget => ?_, ?_, fun ticket call backend hget => ?_,
    fun backend hbackend => ?_, ?_⟩
  · cases hget
  · intro entry hentry
    obtain ⟨backend, hbackend, rfl⟩ := List.mem_map.1 hentry
    obtain ⟨i, hi, rfl⟩ := List.mem_mapIdx.1 hbackend
    rfl
  · cases hget
  · refine ⟨?_, fun call hget => by cases hget⟩
    have hmem := List.mem_map_of_mem (f := Backend.client) hbackend
    rw [hclients] at hmem
    exact List.mem_range.1 hmem
  · rw [hclients]
    exact List.nodup_range

theorem unambiguous_of_build (h : build separator pending = .ok self) :
    Unambiguous self.entries := by
  obtain ⟨hclear, rfl⟩ := build_eq_ok h
  have hapart : (pending.map fun backend => backend.ns ++ separator).Pairwise
      fun first second => ¬first.toList <+: second.toList ∧ ¬second.toList <+: first.toList := by
    unfold ambiguousPrefixes at hclear
    dsimp only at hclear
    rw [List.map_map] at hclear
    have hnone : ∀ first ∈ (pending.map fun backend => backend.ns ++ separator).zipIdx,
        ∀ second ∈ (pending.map fun backend => backend.ns ++ separator).zipIdx,
          first.2 ≠ second.2 → ¬first.1.toList <+: second.1.toList := by
      intro first hfirst second hsecond hne hprefix
      have hany := List.any_eq_false.1 (Bool.eq_false_iff.2
        (List.any_eq_false.1 hclear first hfirst)) second hsecond
      refine hany ?_
      rw [Bool.and_eq_true, bne_iff_ne]
      exact ⟨hne, List.isPrefixOf_iff_prefix.2 hprefix⟩
    refine List.pairwise_iff_getElem.2 fun i j hi hj hlt => ?_
    have hfirst := List.mk_mem_zipIdx_iff_getElem?.2 (List.getElem?_eq_getElem hi)
    have hsecond := List.mk_mem_zipIdx_iff_getElem?.2 (List.getElem?_eq_getElem hj)
    exact ⟨hnone (_, i) hfirst (_, j) hsecond (Nat.ne_of_lt hlt),
      hnone (_, j) hsecond (_, i) hfirst (Nat.ne_of_gt hlt)⟩
  have hprefixes : ((initialized separator pending).map BackendEntry.fromBackend).map
      BackendEntry.namePrefix = (pending.filter fun backend => backend.initializes).map
        fun backend => backend.ns ++ separator := by
    unfold initialized
    refine List.ext_getElem (by simp) fun i _ _ => ?_
    simp [BackendEntry.namePrefix, BackendEntry.fromBackend]
  have hsublist := List.filter_sublist (p := fun backend : PendingBackend => backend.initializes)
    (l := pending)
  have hkept := hapart.sublist (hsublist.map _)
  rw [← hprefixes, List.pairwise_map] at hkept
  exact hkept

end McpProxy

end TowerMcp
