import TowerMcp.Proxy.Backends

/-!
# The namespaces of a proxy

The prefixes of the entries stay apart exactly when every addition would still pass its check when it
registers its entry, and the two lists have the same backends between calls when no removal takes a
backend out of the list whose entry is registered and no backend is appended whose entry is gone for
good. Nothing in the proxy sees to either: two additions of one namespace may both have passed the
check before one of them registers.
-/

namespace TowerMcp

open Execution Pool

namespace McpProxy

variable {self next : McpProxy} {event : Event}

def isChecked (self : McpProxy) : Event → Bool
  | .begin _ => true
  | .resume ticket _ =>
    match self.calls.get ticket with
    | some (.discovering backend) =>
      decide (validateNamespace backend.ns backend.separator self.entries = .ok ())
    | _ => true

def isDetaching (self : McpProxy) (ns : String) : Bool :=
  self.calls.any fun call =>
    match call with
    | .removing other _ => other == ns
    | _ => false

/-- Whether a removal takes no backend out of the list whose entry is registered, and an addition
appends no backend whose entry has been removed, unless it is still to be taken out. -/
def isOrdered (self : McpProxy) : Event → Bool
  | .begin _ => true
  | .resume ticket _ =>
    match self.calls.get ticket with
    | some (.removing ns _) =>
      self.backends.all fun backend =>
        decide (backend.ns = ns → BackendEntry.fromBackend backend ∉ self.entries)
    | some (.appending backend) =>
      decide (BackendEntry.fromBackend backend ∈ self.entries) || self.isDetaching backend.ns
    | _ => true

def Detaching (self : McpProxy) (ns : String) : Prop :=
  ∃ ticket replacing, self.calls.get ticket = some (.removing ns replacing)

theorem is_detaching_iff {ns : String} : self.isDetaching ns = true ↔ self.Detaching ns := by
  unfold isDetaching Detaching
  rw [any_eq_true_iff]
  constructor
  · rintro ⟨ticket, call, hget, hns⟩
    cases call with
    | removing other replacing =>
      rw [beq_iff_eq] at hns
      exact ⟨ticket, replacing, hns ▸ hget⟩
    | connecting | initializing | discovering | appending | notifying => cases hns
  · rintro ⟨ticket, replacing, hget⟩
    exact ⟨ticket, _, hget, beq_self_eq_true ns⟩

structure Consistent (proxy : McpProxy) : Prop where
  listed : ∀ entry ∈ proxy.entries, entry ∈ proxy.backends.map BackendEntry.fromBackend ∨
    ∃ ticket backend, proxy.calls.get ticket = some (.appending backend) ∧
      entry = BackendEntry.fromBackend backend
  registered : ∀ backend ∈ proxy.backends,
    BackendEntry.fromBackend backend ∈ proxy.entries ∨ proxy.Detaching backend.ns

structure Namespaced (proxy : McpProxy) : Prop where
  apart : Unambiguous proxy.entries
  routed : ∀ caches, RoutesBack proxy.entries caches
  same : proxy.Idle →
    (proxy.entries.map BackendEntry.ns).Perm (proxy.backends.map Backend.ns)

/-! ## Prefixes -/

theorem unambiguous_step_iff (hsound : Sound self) (h : Unambiguous self.entries)
    (hstep : step self event = some next) : Unambiguous next.entries ↔ self.isChecked event = true := by
  cases turn_of_step hstep with
  | refused operation => exact iff_of_true h rfl
  | entered operation ns hvalid => exact iff_of_true h rfl
  | detached operation ns replacing => exact iff_of_true (h.sublist List.filter_sublist) rfl
  | ended ticket ok call hcall hdiscovering happending hremoving =>
    refine iff_of_true h ?_
    cases call with
    | discovering backend => exact absurd rfl (hdiscovering backend)
    | connecting | initializing | appending | removing | notifying => simp [isChecked, hcall]
  | connected ticket ok ns hcall => exact iff_of_true h (by simp [isChecked, hcall])
  | initialized ticket ok backend hcall => exact iff_of_true h (by simp [isChecked, hcall])
  | registered ticket ok backend hcall =>
    have hseparator := (hsound.pending ticket _ backend hcall rfl).1
    have hseparators : ∀ entry ∈ self.entries,
        entry.separator = (BackendEntry.fromBackend backend).separator :=
      fun entry hentry => (hsound.separators entry hentry).trans hseparator.symm
    have happend := unambiguous_append_iff h hseparators
    rw [happend]
    simp [isChecked, hcall, BackendEntry.fromBackend]
  | appended ticket ok backend hcall => exact iff_of_true h (by simp [isChecked, hcall])
  | dropped ticket ok ns replacing hcall => exact iff_of_true h (by simp [isChecked, hcall])
  | reentered ticket ok ns hcall => exact iff_of_true h (by simp [isChecked, hcall])

/-! ## The two lists -/

def Appending (self : McpProxy) (entry : BackendEntry) : Prop :=
  ∃ ticket backend, self.calls.get ticket = some (.appending backend) ∧
    entry = BackendEntry.fromBackend backend

structure Keeps (proxy next : McpProxy) : Prop where
  appending : ∀ ticket backend, proxy.calls.get ticket = some (.appending backend) →
    next.calls.get ticket = some (.appending backend)
  removing : ∀ ticket ns replacing, proxy.calls.get ticket = some (.removing ns replacing) →
    next.calls.get ticket = some (.removing ns replacing)

variable {entries : List BackendEntry}

theorem Sound.keeps_start (h : Sound self) {call : BackendCall} :
    Keeps self { self with entries, calls := self.calls.start call } where
  appending _ _ hget := h.numbered.get_start hget call
  removing _ _ _ hget := h.numbered.get_start hget call

theorem keeps_become {ticket : ℕ} {old : BackendCall} (hold : self.calls.get ticket = some old)
    (happending : ∀ backend, old ≠ .appending backend)
    (hremoving : ∀ ns replacing, old ≠ .removing ns replacing) (call : BackendCall) :
    Keeps self { self with entries, calls := self.calls.become ticket call } where
  appending _ backend hget := get_become_of_ne hold hget (happending backend).symm call
  removing _ ns replacing hget := get_become_of_ne hold hget (hremoving ns replacing).symm call

theorem Consistent.keeps (h : Consistent self) (hkeeps : Keeps self next)
    (hbackends : next.backends = self.backends)
    (hcome : ∀ entry ∈ next.entries, entry ∈ self.entries ∨ next.Appending entry)
    (hgo : ∀ backend ∈ self.backends, BackendEntry.fromBackend backend ∈ self.entries →
      BackendEntry.fromBackend backend ∈ next.entries ∨ next.Detaching backend.ns) :
    Consistent next where
  listed entry hentry := by
    rw [hbackends]
    rcases hcome entry hentry with hold | hnew
    · rcases h.listed entry hold with hlisted | ⟨ticket, backend, hget, heq⟩
      · exact Or.inl hlisted
      · exact Or.inr ⟨ticket, backend, hkeeps.appending ticket backend hget, heq⟩
    · exact Or.inr hnew
  registered backend hbackend := by
    rw [hbackends] at hbackend
    rcases h.registered backend hbackend with hentry | ⟨ticket, replacing, hget⟩
    · exact hgo backend hbackend hentry
    · exact Or.inr ⟨ticket, replacing, hkeeps.removing ticket _ replacing hget⟩

theorem Consistent.step (hsound : Sound self) (h : Consistent self) (hordered : self.isOrdered event = true)
    (hstep : step self event = some next) : Consistent next := by
  cases turn_of_step hstep with
  | refused operation => exact h
  | entered operation ns hvalid =>
    exact h.keeps hsound.keeps_start rfl (fun _ hentry => Or.inl hentry)
      fun _ _ hentry => Or.inl hentry
  | detached operation ns replacing =>
    refine h.keeps hsound.keeps_start rfl
      (fun entry hentry => Or.inl (List.mem_of_mem_filter hentry)) fun backend _ hentry => ?_
    by_cases hns : backend.ns = ns
    · rw [hns]
      exact Or.inr ⟨_, replacing, get_start_self self.calls _⟩
    · exact Or.inl (List.mem_filter.2 ⟨hentry, decide_eq_true hns⟩)
  | ended ticket ok call hcall hdiscovering happending hremoving =>
    have hkeeps : Keeps self { self with calls := self.calls.finish ticket } :=
      ⟨fun _ backend hget => get_finish_of_ne hcall hget (happending backend).symm,
        fun _ ns replacing hget => get_finish_of_ne hcall hget (hremoving ns replacing).symm⟩
    exact h.keeps hkeeps rfl (fun _ hentry => Or.inl hentry) fun _ _ hentry => Or.inl hentry
  | connected ticket ok ns hcall =>
    exact h.keeps (keeps_become hcall nofun nofun _) rfl (fun _ hentry => Or.inl hentry)
      fun _ _ hentry => Or.inl hentry
  | initialized ticket ok backend hcall =>
    exact h.keeps (keeps_become hcall nofun nofun _) rfl (fun _ hentry => Or.inl hentry)
      fun _ _ hentry => Or.inl hentry
  | registered ticket ok backend hcall =>
    refine h.keeps (keeps_become hcall nofun nofun _) rfl (fun entry hentry => ?_)
      fun _ _ hentry => Or.inl (List.mem_append_left _ hentry)
    rcases List.mem_append.1 hentry with hold | hnew
    · exact Or.inl hold
    · exact Or.inr ⟨ticket, backend, get_become_self self.calls ticket _,
        List.mem_singleton.1 hnew⟩
  | appended ticket ok backend hcall =>
    have hkept : ∀ other ns replacing, self.calls.get other = some (.removing ns replacing) →
        (self.calls.become ticket (.notifying none)).get other =
          some (.removing ns replacing) :=
      fun _ _ _ hget => get_become_of_ne hcall hget nofun _
    constructor
    · intro entry hentry
      show entry ∈ (self.backends ++ [backend]).map BackendEntry.fromBackend ∨ _
      rw [List.map_append, List.mem_append]
      rcases h.listed entry hentry with hlisted | ⟨other, held, hget, heq⟩
      · exact Or.inl (Or.inl hlisted)
      · by_cases hsame : held = backend
        · rw [heq, hsame]
          exact Or.inl (Or.inr List.mem_cons_self)
        · exact Or.inr ⟨other, held, get_become_of_ne hcall hget
            (fun hcalls => hsame (BackendCall.appending.inj hcalls)) _, heq⟩
    · intro other hother
      rcases List.mem_append.1 hother with hold | hnew
      · rcases h.registered other hold with hentry | ⟨held, replacing, hget⟩
        · exact Or.inl hentry
        · exact Or.inr ⟨held, replacing, hkept held _ replacing hget⟩
      · rw [List.mem_singleton.1 hnew]
        simp only [isOrdered, hcall, Bool.or_eq_true, decide_eq_true_eq, is_detaching_iff]
          at hordered
        rcases hordered with hentry | ⟨held, replacing, hget⟩
        · exact Or.inl hentry
        · exact Or.inr ⟨held, replacing, hkept held _ replacing hget⟩
  | dropped ticket ok ns replacing hcall =>
    constructor
    · intro entry hentry
      rcases h.listed entry hentry with hlisted | ⟨other, held, hget, heq⟩
      · obtain ⟨backend, hbackend, rfl⟩ := List.mem_map.1 hlisted
        have hne : backend.ns ≠ ns := fun hns => by
          simp only [isOrdered, hcall, List.all_eq_true, decide_eq_true_eq] at hordered
          exact hordered backend hbackend hns hentry
        exact Or.inl (List.mem_map_of_mem (List.mem_filter.2 ⟨hbackend, by simpa using hne⟩))
      · exact Or.inr ⟨other, held, get_become_of_ne hcall hget nofun _, heq⟩
    · intro backend hbackend
      obtain ⟨hold, hne⟩ := List.mem_filter.1 hbackend
      rcases h.registered backend hold with hentry | ⟨other, held, hget⟩
      · exact Or.inl hentry
      · refine Or.inr ⟨other, held, get_become_of_ne hcall hget (fun hcalls => ?_) _⟩
        have hns := (BackendCall.removing.inj hcalls).1
        simp [hns] at hne
  | reentered ticket ok ns hcall =>
    exact h.keeps (keeps_become hcall nofun nofun _) rfl (fun _ hentry => Or.inl hentry)
      fun _ _ hentry => Or.inl hentry

theorem consistent_of_build {separator : String} {pending : List PendingBackend}
    (h : build separator pending = .ok self) : Consistent self := by
  obtain ⟨-, rfl⟩ := build_eq_ok h
  exact ⟨fun _ hentry => Or.inl hentry, fun _ hbackend => Or.inl (List.mem_map_of_mem hbackend)⟩

theorem nodup_of_unambiguous (h : Unambiguous entries) : entries.Nodup := by
  refine h.imp fun {first second} hapart heq => ?_
  rw [heq] at hapart
  exact hapart.1 List.prefix_rfl

theorem Consistent.same (hsound : Sound self) (h : Consistent self)
    (hunambiguous : Unambiguous self.entries) (hidle : self.Idle) :
    (self.entries.map BackendEntry.ns).Perm (self.backends.map Backend.ns) := by
  have hmem : ∀ entry, entry ∈ self.entries ↔
      entry ∈ self.backends.map BackendEntry.fromBackend := by
    intro entry
    constructor
    · intro hentry
      rcases h.listed entry hentry with hlisted | ⟨ticket, backend, hget, _⟩
      · exact hlisted
      · rw [hidle ticket] at hget
        cases hget
    · intro hlisted
      obtain ⟨backend, hbackend, rfl⟩ := List.mem_map.1 hlisted
      rcases h.registered backend hbackend with hentry | ⟨ticket, replacing, hget⟩
      · exact hentry
      · rw [hidle ticket] at hget
        cases hget
  have hnodup : (self.backends.map BackendEntry.fromBackend).Nodup := by
    refine List.Nodup.of_map BackendEntry.client ?_
    rw [List.map_map]
    exact hsound.nodup
  have hperm := (List.perm_ext_iff_of_nodup (nodup_of_unambiguous hunambiguous) hnodup).2 hmem
  have hns := hperm.map BackendEntry.ns
  rw [List.map_map] at hns
  exact hns

/-- In every run of a proxy that is built, the prefixes stay apart exactly when every addition would
still pass its check when it registers its entry; and in a run whose steps are also ordered, every
listed name goes back to its backend in every state, and the two lists have the same namespaces
whenever no call is in flight. -/
theorem namespaced_iff_checked {separator : String} {pending : List PendingBackend}
    {start : McpProxy} (hbuild : build separator pending = .ok start) (events : List Event) :
    (Throughout step (fun proxy => Unambiguous proxy.entries) start events ↔
      Along step (fun proxy event => proxy.isChecked event = true) start events) ∧
    (Along step
      (fun proxy event => proxy.isChecked event = true ∧ proxy.isOrdered event = true) start
      events → Throughout step Namespaced start events) := by
  constructor
  · have hinvariant : ∀ proxy event next, Sound proxy → step proxy event = some next →
        Sound next := fun _ _ _ hsound hstep => hsound.step hstep
    refine throughout_iff_along hinvariant
      (fun _ _ _ hsound h hstep => unambiguous_step_iff hsound h hstep) ?_ (sound_of_build hbuild)
      (unambiguous_of_build hbuild) events
    intro proxy event hrefused
    cases event with
    | begin operation => rfl
    | resume ticket ok =>
      have hnone : proxy.calls.get ticket = none := Option.map_eq_none_iff.1 hrefused
      simp [isChecked, hnone]
  · intro halong
    have hkeeps : ∀ proxy event next,
        Sound proxy ∧ Unambiguous proxy.entries ∧ Consistent proxy →
          proxy.isChecked event = true ∧ proxy.isOrdered event = true →
            step proxy event = some next →
              Sound next ∧ Unambiguous next.entries ∧ Consistent next := by
      rintro proxy event next ⟨hsound, hunambiguous, hconsistent⟩ ⟨hchecked, hordered⟩ hstep
      exact ⟨hsound.step hstep, (unambiguous_step_iff hsound hunambiguous hstep).2 hchecked,
        hconsistent.step hsound hordered hstep⟩
    have hall := throughout_of_along hkeeps
      ⟨sound_of_build hbuild, unambiguous_of_build hbuild, consistent_of_build hbuild⟩ halong
    exact hall.mono fun proxy hproxy =>
      ⟨hproxy.2.1, routes_back_of_unambiguous hproxy.2.1,
        hproxy.2.2.same hproxy.1 hproxy.2.1⟩

def mathProxy : McpProxy where
  separator := "_"
  entries := [{ ns := "math", separator := "_", client := 0 }]
  backends := [{ ns := "math", separator := "_", client := 0 }]
  calls := { next := 1 }

def orderlyRun : List Event :=
  [.begin (.addBackend "text"), .begin (.removeBackend "math"), .resume 1 true, .resume 2 true,
    .resume 1 true, .resume 1 true, .resume 2 true, .resume 1 true, .resume 1 true]

theorem orderly_run_namespaced : build "_" [{ ns := "math" }] = .ok mathProxy ∧
    (run step mathProxy orderlyRun).isSome = true ∧
      Throughout step Namespaced mathProxy orderlyRun := by
  have hbuild : build "_" [{ ns := "math" }] = .ok mathProxy := rfl
  exact ⟨hbuild, by decide +kernel, (namespaced_iff_checked hbuild orderlyRun).2 (by decide +kernel)⟩

def collidingRun : List Event :=
  [.begin (.addBackend "text"), .begin (.addBackend "text"), .resume 1 true, .resume 2 true,
    .resume 1 true, .resume 2 true, .resume 1 true, .resume 2 true]

/-- After two additions of one namespace at the same time, two entries have the same prefix. -/
theorem concurrent_additions_collide : build "_" [{ ns := "math" }] = .ok mathProxy ∧
    ¬Throughout step Namespaced mathProxy collidingRun := by
  refine ⟨rfl, fun hall => ?_⟩
  obtain ⟨final, hrun, hclash⟩ : ∃ final,
      run step mathProxy collidingRun = some final ∧ ¬Unambiguous final.entries := by
    decide +kernel
  exact hclash (hall.last hrun).apart

end McpProxy

end TowerMcp
