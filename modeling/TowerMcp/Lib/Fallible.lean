import Mathlib.Tactic.Common

/-!
# Fallible computations

A computation in `Except` that ends in a value took the value branch at every bind. `bind_eq_ok`
peels one bind off such a computation, so that a proof about a long one never unfolds the monad.
`Outcome` says how a write to a store that may fail ends: an error may be reported before the write
took effect or after it.
-/

namespace Fallible

universe u v

variable {ε : Type u} {α β : Type v}

theorem bind_eq_ok {first : Except ε α} {rest : α → Except ε β} {value : β} :
    (first >>= rest) = .ok value ↔ ∃ a, first = .ok a ∧ rest a = .ok value := by
  cases first with
  | error e => simp [bind, Except.bind]
  | ok a => simp [bind, Except.bind]

theorem pure_eq_ok {a value : α} : (pure a : Except ε α) = .ok value ↔ a = value := by
  simp [pure, Except.pure]

@[simp] theorem ok_bind (a : α) (rest : α → Except ε β) :
    ((.ok a : Except ε α) >>= rest) = rest a := rfl

@[simp] theorem error_bind (e : ε) (rest : α → Except ε β) :
    ((.error e : Except ε α) >>= rest) = .error e := rfl

theorem map_error_eq_ok {δ : Type*} {f : ε → δ} {outcome : Except ε α} {value : α} :
    outcome.mapError f = .ok value ↔ outcome = .ok value := by
  cases outcome with
  | ok a => exact ⟨fun h => by cases h; rfl, fun h => by cases h; rfl⟩
  | error e => exact ⟨nofun, nofun⟩

theorem map_eq_ok {f : α → β} {outcome : Except ε α} {value : β} :
    outcome.map f = .ok value ↔ ∃ a, outcome = .ok a ∧ f a = value := by
  cases outcome with
  | error e => simp [Except.map]
  | ok a => simp [Except.map]

theorem to_option_eq_some {outcome : Except ε α} {value : α} :
    outcome.toOption = some value ↔ outcome = .ok value := by
  cases outcome with
  | error e => simp [Except.toOption]
  | ok a => simp [Except.toOption]

theorem bind_eq_error {first : Except ε α} {rest : α → Except ε β} {e : ε} :
    (first >>= rest) = .error e ↔
      first = .error e ∨ ∃ a, first = .ok a ∧ rest a = .error e := by
  cases first with
  | error e' => simp [bind, Except.bind]
  | ok a => simp [bind, Except.bind]

/-- A request handler: it changes a state, may refuse with an error, and may panic. An error keeps the
state reached so far. -/
abbrev Handler (π ε σ α : Type) := ExceptT ε (StateT σ (Except π)) α

namespace Handler

variable {π ε σ α β : Type}

/-- Run a handler. -/
def outcome (handler : Handler π ε σ α) (state : σ) : Except π (Except ε α × σ) :=
  (ExceptT.run handler).run state

theorem outcome_pure (a : α) (state : σ) :
    outcome (pure a : Handler π ε σ α) state = .ok (.ok a, state) := rfl

theorem outcome_throw (e : ε) (state : σ) :
    outcome (throw e : Handler π ε σ α) state = .ok (.error e, state) := rfl

theorem outcome_bind_error {first : Handler π ε σ α} {rest : α → Handler π ε σ β} {state next : σ}
    {e : ε} (h : outcome first state = .ok (.error e, next)) :
    outcome (first >>= rest) state = .ok (.error e, next) := by
  have hrun : (first state : Except π (Except ε α × σ)) = .ok (.error e, next) := h
  show ((first state >>= fun pair => ExceptT.bindCont rest pair.1 pair.2) :
    Except π (Except ε β × σ)) = _
  rw [hrun]
  rfl

theorem outcome_bind_ok {first : Handler π ε σ α} {rest : α → Handler π ε σ β} {state next : σ}
    {a : α} (h : outcome first state = .ok (.ok a, next)) :
    outcome (first >>= rest) state = outcome (rest a) next := by
  have hrun : (first state : Except π (Except ε α × σ)) = .ok (.ok a, next) := h
  show ((first state >>= fun pair => ExceptT.bindCont rest pair.1 pair.2) :
    Except π (Except ε β × σ)) = _
  rw [hrun]
  rfl

end Handler

/-- How a write to a store ends: done, refused without effect, or with its effect and an error. -/
inductive Outcome (ε : Type u) where
  | done
  | refused (error : ε)
  | lost (error : ε)
deriving DecidableEq

namespace Outcome

/-- What the caller is told. -/
def result : Outcome ε → Except ε Unit
  | .done => .ok ()
  | .refused error => .error error
  | .lost error => .error error

/-- Whether the write took effect. -/
def applies : Outcome ε → Bool
  | .done => true
  | .refused _ => false
  | .lost _ => true

/-- The state a write leaves. -/
def write {σ : Type v} (outcome : Outcome ε) (f : σ → σ) (state : σ) : σ :=
  if outcome.applies then f state else state

theorem write_cases {σ : Type v} (outcome : Outcome ε) (f : σ → σ) (state : σ) :
    (outcome.applies = true ∧ outcome.write f state = f state) ∨
      (outcome.applies = false ∧ outcome.write f state = state) := by
  cases outcome with
  | done => exact Or.inl ⟨rfl, rfl⟩
  | refused error => exact Or.inr ⟨rfl, rfl⟩
  | lost error => exact Or.inl ⟨rfl, rfl⟩

@[simp] theorem applies_done : (done : Outcome ε).applies = true := rfl

@[simp] theorem applies_refused (error : ε) : (refused error).applies = false := rfl

@[simp] theorem applies_lost (error : ε) : (lost error).applies = true := rfl

@[simp] theorem result_done : (done : Outcome ε).result = .ok () := rfl

@[simp] theorem result_refused (error : ε) : (refused error).result = .error error := rfl

@[simp] theorem result_lost (error : ε) : (lost error).result = .error error := rfl

@[simp] theorem write_refused {σ : Type v} (error : ε) (f : σ → σ) (state : σ) :
    (refused error).write f state = state := rfl

@[simp] theorem write_lost {σ : Type v} (error : ε) (f : σ → σ) (state : σ) :
    (lost error).write f state = f state := rfl

@[simp] theorem write_done {σ : Type v} (f : σ → σ) (state : σ) :
    (done : Outcome ε).write f state = f state := rfl

end Outcome

end Fallible
