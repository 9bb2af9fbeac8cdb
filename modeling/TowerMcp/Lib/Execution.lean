import Mathlib.Tactic.Common

/-!
# Runs of a machine with refusable steps

A machine is a function `step : σ → ε → Option σ`: an event taken in a state leads to a state, or is
refused. Every nondeterministic choice is part of the event, so `run` follows a list of events.
`Throughout P` says that `P` holds in every state a run visits and `Along C` that every step of a
run is taken under the condition `C`. The rules below turn a fact about one step into a fact about
every run: `run_invariant`, its conditional form `along_invariant`, and `throughout_iff_along`,
which decides a property of all visited states by the steps that could break it.
-/

namespace Execution

universe u v

variable {σ : Type u} {ε : Type v}

/-- Take the events in order. A refused event stops the run. -/
def run (step : σ → ε → Option σ) : σ → List ε → Option σ
  | state, [] => some state
  | state, event :: rest => step state event >>= fun next => run step next rest

/-- Every step of the run satisfies `C` at the state it starts from. -/
def Along (step : σ → ε → Option σ) (C : σ → ε → Prop) : σ → List ε → Prop
  | _, [] => True
  | state, event :: rest =>
    C state event ∧ match step state event with
      | none => True
      | some next => Along step C next rest

/-- Every state the run visits satisfies `P`, the first one included. -/
def Throughout (step : σ → ε → Option σ) (P : σ → Prop) : σ → List ε → Prop
  | state, [] => P state
  | state, event :: rest =>
    P state ∧ match step state event with
      | none => True
      | some next => Throughout step P next rest

/-- A state is reachable from `init` when some run ends in it. -/
def Reachable (step : σ → ε → Option σ) (init state : σ) : Prop :=
  ∃ events, run step init events = some state

variable {step : σ → ε → Option σ}

@[simp] theorem run_nil (state : σ) : run step state [] = some state := rfl

theorem run_cons {state final : σ} {event : ε} {rest : List ε} :
    run step state (event :: rest) = some final ↔
      ∃ next, step state event = some next ∧ run step next rest = some final := by
  simp [run, Option.bind_eq_some_iff]

theorem run_append (state : σ) (first second : List ε) :
    run step state (first ++ second) =
      (run step state first >>= fun middle => run step middle second) := by
  induction first generalizing state with
  | nil => rfl
  | cons event rest ih =>
    simp only [List.cons_append, run]
    cases step state event with
    | none => rfl
    | some next => exact ih next

theorem run_append_some {state final : σ} {first second : List ε} :
    run step state (first ++ second) = some final ↔
      ∃ middle, run step state first = some middle ∧ run step middle second = some final := by
  rw [run_append]
  simp [Option.bind_eq_some_iff]

theorem run_concat {state final : σ} {events : List ε} {event : ε} :
    run step state (events ++ [event]) = some final ↔
      ∃ middle, run step state events = some middle ∧ step middle event = some final := by
  rw [run_append_some]
  simp [run]

theorem run_invariant {I : σ → Prop}
    (hstep : ∀ state event next, I state → step state event = some next → I next)
    {state final : σ} {events : List ε} (hinit : I state)
    (hrun : run step state events = some final) : I final := by
  induction events generalizing state with
  | nil => exact Option.some.inj hrun ▸ hinit
  | cons event rest ih =>
    obtain ⟨next, hnext, hrest⟩ := run_cons.1 hrun
    exact ih (hstep state event next hinit hnext) hrest

theorem reachable_refl (state : σ) : Reachable step state state := ⟨[], rfl⟩

theorem Reachable.of_step {state next final : σ} {event : ε} (hnext : step state event = some next)
    (hreach : Reachable step next final) : Reachable step state final := by
  obtain ⟨rest, hrest⟩ := hreach
  exact ⟨event :: rest, run_cons.2 ⟨next, hnext, hrest⟩⟩

theorem Reachable.trans {init middle final : σ} (hfirst : Reachable step init middle)
    (hsecond : Reachable step middle final) : Reachable step init final := by
  obtain ⟨first, hfirst⟩ := hfirst
  obtain ⟨second, hsecond⟩ := hsecond
  exact ⟨first ++ second, run_append_some.2 ⟨middle, hfirst, hsecond⟩⟩

theorem along_invariant {I : σ → Prop} {C : σ → ε → Prop}
    (hstep : ∀ state event next, I state → C state event → step state event = some next → I next)
    {state final : σ} {events : List ε} (hinit : I state) (halong : Along step C state events)
    (hrun : run step state events = some final) : I final := by
  induction events generalizing state with
  | nil => exact Option.some.inj hrun ▸ hinit
  | cons event rest ih =>
    obtain ⟨next, hnext, hrest⟩ := run_cons.1 hrun
    obtain ⟨hcond, htail⟩ := halong
    rw [hnext] at htail
    exact ih (hstep state event next hinit hcond hnext) htail hrest

theorem along_of_along {I : σ → Prop} {C D : σ → ε → Prop}
    (hstep : ∀ state event next, I state → C state event → step state event = some next → I next)
    (himplies : ∀ state event, I state → C state event → D state event)
    {state : σ} {events : List ε} (hinit : I state) (halong : Along step C state events) :
    Along step D state events := by
  induction events generalizing state with
  | nil => trivial
  | cons event rest ih =>
    obtain ⟨hcond, htail⟩ := halong
    refine ⟨himplies state event hinit hcond, ?_⟩
    cases hnext : step state event with
    | none => trivial
    | some next =>
      rw [hnext] at htail
      exact ih (hstep state event next hinit hcond hnext) htail

theorem Along.and {C D : σ → ε → Prop} {state : σ} {events : List ε}
    (hfirst : Along step C state events) (hsecond : Along step D state events) :
    Along step (fun s e => C s e ∧ D s e) state events := by
  induction events generalizing state with
  | nil => trivial
  | cons event rest ih =>
    obtain ⟨hcond, htail⟩ := hfirst
    obtain ⟨hother, hrest⟩ := hsecond
    refine ⟨⟨hcond, hother⟩, ?_⟩
    cases hnext : step state event with
    | none => trivial
    | some next =>
      rw [hnext] at htail hrest
      exact ih htail hrest

theorem Along.tail {C : σ → ε → Prop} {state middle : σ} {first second : List ε}
    (halong : Along step C state (first ++ second)) (hrun : run step state first = some middle) :
    Along step C middle second := by
  induction first generalizing state with
  | nil => exact Option.some.inj hrun ▸ halong
  | cons event rest ih =>
    obtain ⟨next, hnext, hrest⟩ := run_cons.1 hrun
    obtain ⟨_, htail⟩ := halong
    rw [hnext] at htail
    exact ih htail hrest

theorem Along.init {C : σ → ε → Prop} {state : σ} {first second : List ε}
    (halong : Along step C state (first ++ second)) : Along step C state first := by
  induction first generalizing state with
  | nil => trivial
  | cons event rest ih =>
    obtain ⟨hcond, htail⟩ := halong
    refine ⟨hcond, ?_⟩
    cases hnext : step state event with
    | none => trivial
    | some next =>
      simp only [hnext] at htail
      exact ih htail

theorem throughout_of_invariant {I : σ → Prop}
    (hstep : ∀ state event next, I state → step state event = some next → I next)
    {state : σ} (hinit : I state) (events : List ε) : Throughout step I state events := by
  induction events generalizing state with
  | nil => exact hinit
  | cons event rest ih =>
    refine ⟨hinit, ?_⟩
    cases hnext : step state event with
    | none => trivial
    | some next => exact ih (hstep state event next hinit hnext)

theorem throughout_of_along {I : σ → Prop} {C : σ → ε → Prop}
    (hstep : ∀ state event next, I state → C state event → step state event = some next → I next)
    {state : σ} {events : List ε} (hinit : I state) (halong : Along step C state events) :
    Throughout step I state events := by
  induction events generalizing state with
  | nil => exact hinit
  | cons event rest ih =>
    obtain ⟨hcond, htail⟩ := halong
    refine ⟨hinit, ?_⟩
    cases hnext : step state event with
    | none => trivial
    | some next =>
      rw [hnext] at htail
      exact ih (hstep state event next hinit hcond hnext) htail

theorem Throughout.mono {P Q : σ → Prop} (h : ∀ state, P state → Q state) {state : σ}
    {events : List ε} (hall : Throughout step P state events) :
    Throughout step Q state events := by
  induction events generalizing state with
  | nil => exact h state hall
  | cons event rest ih =>
    obtain ⟨hhead, htail⟩ := hall
    refine ⟨h state hhead, ?_⟩
    cases hnext : step state event with
    | none => trivial
    | some next =>
      rw [hnext] at htail
      exact ih htail

theorem Throughout.head {P : σ → Prop} {state : σ} {events : List ε}
    (h : Throughout step P state events) : P state := by
  cases events with
  | nil => exact h
  | cons event rest => exact h.1

theorem Throughout.tail {P : σ → Prop} {state middle : σ} {first second : List ε}
    (h : Throughout step P state (first ++ second)) (hrun : run step state first = some middle) :
    Throughout step P middle second := by
  induction first generalizing state with
  | nil => exact Option.some.inj hrun ▸ h
  | cons event rest ih =>
    obtain ⟨next, hnext, hrest⟩ := run_cons.1 hrun
    have htail := h.2
    rw [hnext] at htail
    exact ih htail hrest

theorem Throughout.last {P : σ → Prop} {state final : σ} {events : List ε}
    (h : Throughout step P state events) (hrun : run step state events = some final) :
    P final := by
  induction events generalizing state with
  | nil => exact Option.some.inj hrun ▸ h
  | cons event rest ih =>
    obtain ⟨next, hnext, hrest⟩ := run_cons.1 hrun
    have htail := h.2
    rw [hnext] at htail
    exact ih htail hrest

theorem Reachable.breaks {P : σ → Prop} {state final : σ} (hreach : Reachable step state final)
    (hbroken : ¬ P final) : ∃ events, ¬ Throughout step P state events := by
  obtain ⟨events, hrun⟩ := hreach
  exact ⟨events, fun hall => hbroken (hall.last hrun)⟩

theorem along_of_forall {C : σ → ε → Prop} (h : ∀ state event, C state event) (state : σ)
    (events : List ε) : Along step C state events := by
  induction events generalizing state with
  | nil => trivial
  | cons event rest ih =>
    refine ⟨h state event, ?_⟩
    cases step state event with
    | none => trivial
    | some next => exact ih next

theorem throughout_iff_along_of_along {I P : σ → Prop} {C D : σ → ε → Prop}
    (hinvariant : ∀ state event next, I state → D state event → step state event = some next →
      I next)
    (hkeeps : ∀ state event next, I state → D state event → P state →
      step state event = some next → (P next ↔ C state event))
    (hrefused : ∀ state event, step state event = none → C state event)
    {state : σ} (hinit : I state) (hstart : P state) (events : List ε)
    (halong : Along step D state events) :
    Throughout step P state events ↔ Along step C state events := by
  induction events generalizing state with
  | nil => simp [Throughout, Along, hstart]
  | cons event rest ih =>
    obtain ⟨hcond, hrest⟩ := halong
    cases hnext : step state event with
    | none => simp [Throughout, Along, hnext, hstart, hrefused state event hnext]
    | some next =>
      rw [hnext] at hrest
      have hiff := hkeeps state event next hinit hcond hstart hnext
      have hI := hinvariant state event next hinit hcond hnext
      simp only [Throughout, Along, hnext]
      constructor
      · rintro ⟨_, htail⟩
        exact ⟨hiff.1 htail.head, (ih hI htail.head hrest).1 htail⟩
      · rintro ⟨hcond, htail⟩
        exact ⟨hstart, (ih hI (hiff.2 hcond) hrest).2 htail⟩

theorem throughout_iff_along {I P : σ → Prop} {C : σ → ε → Prop}
    (hinvariant : ∀ state event next, I state → step state event = some next → I next)
    (hkeeps : ∀ state event next, I state → P state → step state event = some next →
      (P next ↔ C state event))
    (hrefused : ∀ state event, step state event = none → C state event)
    {state : σ} (hinit : I state) (hstart : P state) (events : List ε) :
    Throughout step P state events ↔ Along step C state events :=
  throughout_iff_along_of_along (fun s e n hI _ => hinvariant s e n hI)
    (fun s e n hI _ => hkeeps s e n hI) hrefused hinit hstart events
    (along_of_forall (fun _ _ => trivial) state events)

theorem along_of_throughout {I P : σ → Prop} {C D : σ → ε → Prop}
    (hinvariant : ∀ state event next, I state → D state event → step state event = some next →
      I next)
    (hstep : ∀ state event next, I state → D state event → P next →
      step state event = some next → C state event)
    {state final : σ} {events : List ε} (hinit : I state) (halong : Along step D state events)
    (hrun : run step state events = some final) (hall : Throughout step P state events) :
    Along step C state events := by
  induction events generalizing state with
  | nil => trivial
  | cons event rest ih =>
    obtain ⟨next, hnext, hrest⟩ := run_cons.1 hrun
    obtain ⟨hcond, htail⟩ := halong
    have hlater := hall.2
    simp only [hnext] at htail hlater
    refine ⟨hstep state event next hinit hcond hlater.head hnext, ?_⟩
    rw [hnext]
    exact ih (hinvariant state event next hinit hcond hnext) htail hrest hlater

theorem drawn_of_run {ι : Type u} {draw : ε → Option ι} {drawn : σ → ι → Prop}
    (hstep : ∀ state event next, step state event = some next →
      ∀ name, drawn next name → drawn state name ∨ draw event = some name)
    {state final : σ} {events : List ε} (hrun : run step state events = some final) (name : ι)
    (hname : drawn final name) : drawn state name ∨ name ∈ events.filterMap draw := by
  induction events generalizing state with
  | nil => exact .inl (Option.some.inj hrun ▸ hname)
  | cons event rest ih =>
    obtain ⟨next, hnext, hrest⟩ := run_cons.1 hrun
    rcases ih hrest with hearlier | hdrawn
    · rcases hstep state event next hnext name hearlier with hstate | hdraw
      · exact .inl hstate
      · exact .inr (List.mem_filterMap.2 ⟨event, List.mem_cons_self, hdraw⟩)
    · obtain ⟨other, hother, hdraw⟩ := List.mem_filterMap.1 hdrawn
      exact .inr (List.mem_filterMap.2 ⟨other, List.mem_cons_of_mem event hother, hdraw⟩)

theorem along_fresh {ι : Type u} {draw : ε → Option ι} {drawn : σ → ι → Prop}
    (hstep : ∀ state event next, step state event = some next →
      ∀ name, drawn next name → drawn state name ∨ draw event = some name)
    {state : σ} {events : List ε} (hnodup : (events.filterMap draw).Nodup)
    (hunused : ∀ name ∈ events.filterMap draw, ¬drawn state name) :
    Along step (fun s e => ∀ name, draw e = some name → ¬drawn s name) state events := by
  induction events generalizing state with
  | nil => trivial
  | cons event rest ih =>
    have hrest : (rest.filterMap draw).Nodup :=
      hnodup.sublist ((List.sublist_cons_self event rest).filterMap _)
    refine ⟨fun name hdraw => hunused name ?_, ?_⟩
    · exact List.mem_filterMap.2 ⟨event, List.mem_cons_self, hdraw⟩
    · cases hnext : step state event with
      | none => trivial
      | some next =>
        refine ih hrest fun name hname hearlier => ?_
        rcases hstep state event next hnext name hearlier with hstate | hdraw
        · obtain ⟨other, hother, hotherDraw⟩ := List.mem_filterMap.1 hname
          exact hunused name
            (List.mem_filterMap.2 ⟨other, List.mem_cons_of_mem event hother, hotherDraw⟩) hstate
        · rw [List.filterMap_cons_some hdraw] at hnodup
          exact (List.nodup_cons.1 hnodup).1 hname

theorem along_taken_iff {C : σ → ε → Prop} {state final : σ} {events : List ε}
    (hrun : run step state events = some final) :
    Along step (fun s e => step s e ≠ none → C s e) state events ↔ Along step C state events := by
  induction events generalizing state with
  | nil => rfl
  | cons event rest ih =>
    obtain ⟨next, hnext, hrest⟩ := run_cons.1 hrun
    simp only [Along, hnext, ih hrest, ne_eq, reduceCtorEq, not_false_eq_true, forall_const]

theorem throughout_iff_along_of_run {I P : σ → Prop} {C D : σ → ε → Prop}
    (hinvariant : ∀ state event next, I state → D state event → step state event = some next →
      I next)
    (hkeeps : ∀ state event next, I state → D state event → P state →
      step state event = some next → (P next ↔ C state event))
    {state final : σ} (hinit : I state) (hstart : P state) {events : List ε}
    (halong : Along step D state events) (hrun : run step state events = some final) :
    Throughout step P state events ↔ Along step C state events := by
  rw [← along_taken_iff hrun]
  refine throughout_iff_along_of_along hinvariant ?_ ?_ hinit hstart events halong
  · intro s e next hI hD hP hnext
    rw [hkeeps s e next hI hD hP hnext]
    simp [hnext]
  · intro s e hrefused htaken
    exact absurd hrefused htaken

theorem along_congr {I : σ → Prop} {C C' D : σ → ε → Prop}
    (hstep : ∀ state event next, I state → D state event → step state event = some next → I next)
    (hiff : ∀ state event, I state → D state event → (C state event ↔ C' state event))
    {state : σ} {events : List ε} (hinit : I state) (halong : Along step D state events) :
    Along step C state events ↔ Along step C' state events := by
  induction events generalizing state with
  | nil => rfl
  | cons event rest ih =>
    obtain ⟨hcond, htail⟩ := halong
    have hhead := hiff state event hinit hcond
    cases hnext : step state event with
    | none => simp only [Along, hnext, hhead]
    | some next =>
      rw [hnext] at htail
      have hrest := ih (hstep state event next hinit hcond hnext) htail
      simp only [Along, hnext, hhead, hrest]

/-- A decidable condition is decidable along a run, by taking the run. -/
instance decidableAlong (C : σ → ε → Prop) [∀ state event, Decidable (C state event)] :
    ∀ (state : σ) (events : List ε), Decidable (Along step C state events)
  | _, [] => .isTrue trivial
  | state, event :: rest =>
    match hnext : step state event with
    | none => decidable_of_iff (C state event) (by simp [Along, hnext])
    | some next =>
      have := decidableAlong C next rest
      decidable_of_iff (C state event ∧ Along step C next rest) (by simp [Along, hnext])

/-- So is what holds where a run ends, and what can be read there. -/
instance decidableExistsEqSome {α : Type u} (result : Option α) (P : α → Prop) [DecidablePred P] :
    Decidable (∃ value, result = some value ∧ P value) :=
  match result with
  | none => .isFalse nofun
  | some value => decidable_of_iff (P value) (by simp)

instance decidableEqSome {α : Type u} (result : Option α) :
    Decidable (∃ value, result = some value) :=
  decidable_of_iff (result.isSome = true) Option.isSome_iff_exists

end Execution
