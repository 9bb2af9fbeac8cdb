import Mathlib.Data.Set.Finite.Basic
import Mathlib.Data.Set.Finite.Range
import Mathlib.Order.Preorder.Finite

/-!
# Chains

What is reached from a start by a function that may give nothing. `ends_iff` says that a chain over
finitely many values ends exactly when it does not repeat.
-/

namespace Chain

variable {α : Type} (next : α → Option α) (start : α)

/-- The value after a number of steps, unless the chain has ended. -/
def nth : ℕ → Option α
  | 0 => some start
  | n + 1 => (nth n).bind next

def NoRepetition : Prop :=
  ∀ i j value, i < j → nth next start i = some value → nth next start j ≠ some value

variable {next start}

theorem nth_add_none {n : ℕ} (h : nth next start n = none) (k : ℕ) :
    nth next start (n + k) = none := by
  induction k with
  | zero => exact h
  | succ k ih => rw [← Nat.add_assoc, nth, ih, Option.bind_none]

theorem nth_add_eq {i j : ℕ} (h : nth next start i = nth next start j) (k : ℕ) :
    nth next start (i + k) = nth next start (j + k) := by
  induction k with
  | zero => exact h
  | succ k ih => rw [← Nat.add_assoc, ← Nat.add_assoc, nth, nth, ih]

/-- A chain that has come back goes on for ever. -/
theorem nth_ne_none {i j : ℕ} {value : α} (hlt : i < j) (hfirst : nth next start i = some value)
    (hagain : nth next start j = some value) (n : ℕ) : nth next start n ≠ none := by
  induction n using Nat.strong_induction_on with
  | _ n ih =>
    intro hnone
    have hlong : j ≤ n := by
      by_contra hshort
      have hended := nth_add_none hnone (j - n)
      rw [Nat.add_sub_cancel' (Nat.le_of_lt (Nat.not_le.1 hshort)), hagain] at hended
      cases hended
    have hback := nth_add_eq (hfirst.trans hagain.symm) (n - j)
    rw [Nat.add_sub_cancel' hlong] at hback
    exact ih (i + (n - j)) (by omega) (hback.trans hnone)

theorem ends_iff (hfinite : {value | ∃ before, next before = some value}.Finite) :
    (∃ n, nth next start n = none) ↔ NoRepetition next start := by
  constructor
  · rintro ⟨n, hnone⟩ i j value hlt hfirst hagain
    exact nth_ne_none hlt hfirst hagain n hnone
  · intro hfresh
    by_contra hgoes
    have hsome (n : ℕ) : ∃ value, nth next start n = some value :=
      Option.ne_none_iff_exists'.1 fun hnone => hgoes ⟨n, hnone⟩
    choose value hvalue using hsome
    have hmem (n : ℕ) : value (n + 1) ∈ {value | ∃ before, next before = some value} := by
      refine ⟨value n, ?_⟩
      have hstep := hvalue (n + 1)
      rwa [nth, hvalue n, Option.bind_some] at hstep
    obtain ⟨i, j, hlt, hsame⟩ := hfinite.exists_lt_map_eq_of_forall_mem hmem
    exact hfresh (i + 1) (j + 1) (value (i + 1)) (Nat.succ_lt_succ hlt) (hvalue _)
      (hsame ▸ hvalue (j + 1))

end Chain
