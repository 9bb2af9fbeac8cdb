import TowerMcp.Lib.Execution

/-!
# Interference between the events of a run

Some events of a machine belong to a party whose influence is in question: `hidden` picks them out.
A run is `Undisturbed` for a `view` when, at each of its points, the view is what it would be had
the hidden events so far not happened. `undisturbed_iff_along` reduces this two-run property to a
condition on the hidden steps of the one run: the two runs go side by side in related states, and a
hidden step that meets the condition leaves the view as it was.
-/

namespace Execution

universe u v w

variable {σ : Type u} {ε : Type v} {ω : Type w}

/-- At each point of the run from `state`, the view is the one that the run from `other` without the
hidden events comes to. -/
def Undisturbed (step : σ → ε → Option σ) (hidden : ε → Bool) (view : σ → ω) (state other : σ)
    (events : List ε) : Prop :=
  ∀ first second final, events = first ++ second → run step state first = some final →
    ∃ without, run step other (first.filter fun event => !hidden event) = some without ∧
      view final = view without

/-- What makes two runs comparable: the states stay related, visible steps are taken in both and
keep equal views equal, and a hidden step keeps the view exactly when it meets `C`. -/
structure Comparable (step : σ → ε → Option σ) (hidden : ε → Bool) (view : σ → ω)
    (Related : σ → σ → Prop) (C : σ → ε → Prop) : Prop where
  visible : ∀ state other event next, Related state other → hidden event = false →
    step state event = some next → ∃ next', step other event = some next' ∧
      Related next next' ∧ (view state = view other → view next = view next')
  hidden_related : ∀ state other event next, Related state other → hidden event = true →
    step state event = some next → Related next other
  hidden_view : ∀ state event next, hidden event = true → step state event = some next →
    (view next = view state ↔ C state event)
  harmless : ∀ state event, hidden event = false ∨ step state event = none → C state event

variable {step : σ → ε → Option σ} {hidden : ε → Bool} {view : σ → ω}
  {Related : σ → σ → Prop} {C : σ → ε → Prop}

variable {state other : σ} {event : ε} {rest : List ε}

theorem undisturbed_cons {next next' : σ} (hstep : step state event = some next)
    (hview : view state = view other)
    (hother : if hidden event then next' = other else step other event = some next') :
    Undisturbed step hidden view state other (event :: rest) ↔
      Undisturbed step hidden view next next' rest := by
  have hwithout (first : List ε) :
      run step other ((event :: first).filter fun event => !hidden event) =
        run step next' (first.filter fun event => !hidden event) := by
    split at hother
    next hhidden => rw [List.filter_cons_of_neg (by simp [hhidden]), hother]
    next hvisible =>
      rw [List.filter_cons_of_pos (by simp [hvisible]), run, hother]
      rfl
  constructor
  · intro h first second final hsplit hrun
    rw [← hwithout]
    exact h (event :: first) second final (by rw [hsplit]; rfl) (run_cons.2 ⟨next, hstep, hrun⟩)
  · intro h first second final hsplit hrun
    cases first with
    | nil =>
      cases hrun
      exact ⟨other, rfl, hview⟩
    | cons e first =>
      obtain ⟨rfl, hrest⟩ := List.cons.inj hsplit
      obtain ⟨middle, hmiddle, hrun'⟩ := run_cons.1 hrun
      cases hstep.symm.trans hmiddle
      rw [hwithout]
      exact h first second final hrest hrun'

theorem undisturbed_of_refused
    (hstep : step state event = none) (hview : view state = view other) :
    Undisturbed step hidden view state other (event :: rest) := by
  intro first second final hsplit hrun
  cases first with
  | nil =>
    cases hrun
    exact ⟨other, rfl, hview⟩
  | cons e first =>
    obtain ⟨rfl, _⟩ := List.cons.inj hsplit
    obtain ⟨middle, hmiddle, _⟩ := run_cons.1 hrun
    rw [hstep] at hmiddle
    cases hmiddle

theorem undisturbed_iff_along (hcomparable : Comparable step hidden view Related C) (hrelated : Related state other) (hview : view state = view other)
    (events : List ε) :
    Undisturbed step hidden view state other events ↔ Along step C state events := by
  induction events generalizing state other with
  | nil =>
    refine iff_of_true ?_ trivial
    intro first second final hsplit hrun
    obtain ⟨rfl, _⟩ := List.append_eq_nil_iff.1 hsplit.symm
    cases hrun
    exact ⟨other, rfl, hview⟩
  | cons event rest ih =>
    cases hstep : step state event with
    | none =>
      refine iff_of_true (undisturbed_of_refused hstep hview) ?_
      refine ⟨hcomparable.harmless state event (Or.inr hstep), ?_⟩
      rw [hstep]
      trivial
    | some next =>
      simp only [Along, hstep]
      cases hhidden : hidden event with
      | false =>
        obtain ⟨next', hstep', hrelated', hview'⟩ :=
          hcomparable.visible state other event next hrelated hhidden hstep
        rw [undisturbed_cons hstep hview (by rwa [hhidden]),
          ih hrelated' (hview' hview)]
        simp [hcomparable.harmless state event (Or.inl hhidden)]
      | true =>
        have hrelated' := hcomparable.hidden_related state other event next hrelated hhidden
          hstep
        have hkeeps := hcomparable.hidden_view state event next hhidden hstep
        rw [undisturbed_cons hstep hview (by rw [hhidden, if_pos rfl])]
        constructor
        · intro h
          -- the run right after the hidden event already shows its effect on the view
          obtain ⟨without, hwithout, heq⟩ := h [] rest next rfl rfl
          cases hwithout
          exact ⟨hkeeps.1 (heq.trans hview.symm), (ih hrelated' heq).1 h⟩
        · rintro ⟨hcond, htail⟩
          exact (ih hrelated' ((hkeeps.2 hcond).trans hview)).2 htail

end Execution
