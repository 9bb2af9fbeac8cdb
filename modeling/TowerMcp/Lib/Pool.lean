import TowerMcp.Lib.FinMap

/-!
# Pools of calls in flight

A pool holds the calls of an asynchronous component that wait at some point, each under a ticket.
Tickets are given out in order, so a call is older than another when its ticket is smaller. `Holds
P` says that every call in flight satisfies `P`; a step of the component starts one call, moves one
on or finishes one, and the lemmas below say what each asks of `Holds`.
-/

universe u

/-- The calls in flight, under their tickets, and the next ticket. -/
structure Pool (α : Type u) where
  calls : FinMap ℕ α := ∅
  next : ℕ := 0

namespace Pool

variable {α : Type u}

/-- The call under a ticket. -/
def get (pool : Pool α) (ticket : ℕ) : Option α :=
  pool.calls.lookup ticket

/-- Start a call under the next ticket. -/
def start (pool : Pool α) (call : α) : Pool α :=
  { calls := pool.calls.insert pool.next call, next := pool.next + 1 }

/-- Start calls under the next tickets, in order. -/
def startAll (pool : Pool α) (calls : List α) : Pool α :=
  calls.foldl start pool

/-- Move the call under a ticket on. -/
def become (pool : Pool α) (ticket : ℕ) (call : α) : Pool α :=
  { pool with calls := pool.calls.insert ticket call }

/-- Finish the call under a ticket. -/
def finish (pool : Pool α) (ticket : ℕ) : Pool α :=
  { pool with calls := pool.calls.erase ticket }

/-- Move every call on. -/
def map (f : α → α) (pool : Pool α) : Pool α :=
  { pool with calls := pool.calls.mapValues f }

/-- Whether some call in flight satisfies `p`. -/
def any (pool : Pool α) (p : α → Bool) : Bool :=
  pool.calls.values.any p

/-- Whether no call under a ticket below a bound is in flight. -/
def doneBelow (pool : Pool α) (bound : ℕ) : Bool :=
  pool.calls.keys.all fun ticket => decide (bound ≤ ticket)

/-- Every call in flight satisfies `P`. -/
def Holds (P : α → Prop) (pool : Pool α) : Prop :=
  ∀ ticket call, pool.get ticket = some call → P call

variable {P Q : α → Prop} {pool : Pool α} {ticket : ℕ} {call : α}

theorem get_start_eq_ite (pool : Pool α) (call : α) (ticket : ℕ) :
    (pool.start call).get ticket = if ticket = pool.next then some call else pool.get ticket :=
  FinMap.lookup_insert_eq_ite pool.calls pool.next ticket call

theorem get_become_eq_ite (pool : Pool α) (moved : ℕ) (call : α) (ticket : ℕ) :
    (pool.become moved call).get ticket = if ticket = moved then some call else pool.get ticket :=
  FinMap.lookup_insert_eq_ite pool.calls moved ticket call

theorem get_finish_eq_ite (pool : Pool α) (finished ticket : ℕ) :
    (pool.finish finished).get ticket = if ticket = finished then none else pool.get ticket :=
  FinMap.lookup_erase_eq_ite pool.calls finished ticket

theorem get_map (f : α → α) (pool : Pool α) (ticket : ℕ) :
    (pool.map f).get ticket = (pool.get ticket).map f :=
  FinMap.lookup_map_values f pool.calls ticket

theorem Holds.of_get (h : Holds P pool) (hget : pool.get ticket = some call) : P call :=
  h ticket call hget

theorem holds_empty : Holds P ({} : Pool α) := by
  intro ticket call hget
  exact absurd hget (by simp [get])

theorem Holds.mono (h : Holds P pool) (hmono : ∀ call, P call → Q call) : Holds Q pool :=
  fun ticket call hget => hmono call (h ticket call hget)

theorem Holds.start (h : Holds P pool) (hcall : P call) : Holds P (pool.start call) := by
  intro other held hget
  rw [get_start_eq_ite] at hget
  split at hget
  · exact Option.some.inj hget ▸ hcall
  · exact h other held hget

theorem Holds.become (h : Holds P pool) (hcall : P call) : Holds P (pool.become ticket call) := by
  intro other held hget
  rw [get_become_eq_ite] at hget
  split at hget
  · exact Option.some.inj hget ▸ hcall
  · exact h other held hget

theorem Holds.map (h : Holds P pool) {f : α → α} (hmap : ∀ call, P call → Q (f call)) :
    Holds Q (pool.map f) := by
  intro ticket moved hget
  rw [get_map] at hget
  obtain ⟨call, hcall, rfl⟩ := Option.map_eq_some_iff.1 hget
  exact hmap call (h ticket call hcall)

theorem Holds.become_iff (h : Holds P pool) (ticket : ℕ) :
    Holds P (pool.become ticket call) ↔ P call := by
  constructor
  · intro hall
    refine hall ticket call ?_
    rw [get_become_eq_ite, if_pos rfl]
  · exact h.become

theorem Holds.finish (h : Holds P pool) : Holds P (pool.finish ticket) := by
  intro other held hget
  rw [get_finish_eq_ite] at hget
  split at hget
  · exact absurd hget (by simp)
  · exact h other held hget

/-- Every ticket in use is below the next one. -/
def Numbered (pool : Pool α) : Prop :=
  ∀ ticket call, pool.get ticket = some call → ticket < pool.next

theorem numbered_empty : Numbered ({} : Pool α) := by
  intro ticket call hget
  exact absurd hget (by simp [get])

theorem Numbered.start (h : Numbered pool) (call : α) : Numbered (pool.start call) := by
  intro other held hget
  show other < pool.next + 1
  rw [get_start_eq_ite] at hget
  split at hget
  next hother =>
    rw [hother]
    omega
  next =>
    have hlt := h other held hget
    omega

theorem Numbered.become (h : Numbered pool) (hget : pool.get ticket = some call) (moved : α) :
    Numbered (pool.become ticket moved) := by
  intro other held hother
  rw [get_become_eq_ite] at hother
  split at hother
  next heq =>
    rw [heq]
    exact h ticket call hget
  next => exact h other held hother

theorem Numbered.map (h : Numbered pool) (f : α → α) : Numbered (pool.map f) := by
  intro ticket moved hget
  rw [get_map] at hget
  obtain ⟨call, hcall, _⟩ := Option.map_eq_some_iff.1 hget
  exact h ticket call hcall

theorem Numbered.get_next (h : Numbered pool) : pool.get pool.next = none := by
  cases hget : pool.get pool.next with
  | none => rfl
  | some call => exact absurd (h pool.next call hget) (Nat.lt_irrefl _)

theorem Numbered.finish (h : Numbered pool) (ticket : ℕ) : Numbered (pool.finish ticket) := by
  intro other held hget
  rw [get_finish_eq_ite] at hget
  split at hget
  next => cases hget
  next => exact h other held hget

theorem get_start_self (pool : Pool α) (call : α) :
    (pool.start call).get pool.next = some call :=
  AList.lookup_insert pool.calls

theorem get_become_self (pool : Pool α) (ticket : ℕ) (call : α) :
    (pool.become ticket call).get ticket = some call :=
  AList.lookup_insert pool.calls

theorem Numbered.get_start (h : Numbered pool) (hget : pool.get ticket = some call) (new : α) :
    (pool.start new).get ticket = some call := by
  rw [get_start_eq_ite, if_neg (Nat.ne_of_lt (h ticket call hget))]
  exact hget

theorem Numbered.start_all (h : Numbered pool) (calls : List α) :
    Numbered (pool.startAll calls) := by
  induction calls generalizing pool with
  | nil => exact h
  | cons call rest ih => exact ih (h.start call)

theorem Numbered.get_start_all (h : Numbered pool) (hget : pool.get ticket = some call)
    (calls : List α) : (pool.startAll calls).get ticket = some call := by
  induction calls generalizing pool with
  | nil => exact hget
  | cons new rest ih => exact ih (h.start new) (h.get_start hget new)

theorem get_start_all_cases {calls : List α} (hget : (pool.startAll calls).get ticket = some call) :
    pool.get ticket = some call ∨ call ∈ calls := by
  induction calls generalizing pool with
  | nil => exact .inl hget
  | cons new rest ih =>
    obtain hstarted | hmem := ih hget
    · rw [get_start_eq_ite] at hstarted
      split at hstarted
      · exact .inr (List.mem_cons.2 (.inl (Option.some.inj hstarted).symm))
      · exact .inl hstarted
    · exact .inr (List.mem_cons_of_mem _ hmem)

theorem get_start_all_replicate (pool : Pool α) (call : α) (count ticket : ℕ) :
    (pool.startAll (List.replicate count call)).get ticket =
      if pool.next ≤ ticket ∧ ticket < pool.next + count then some call else pool.get ticket := by
  induction count generalizing pool with
  | zero =>
    rw [if_neg (by omega)]
    rfl
  | succ count ih =>
    have hfirst : pool.startAll (List.replicate (count + 1) call) =
        (pool.start call).startAll (List.replicate count call) := rfl
    have hnext : (pool.start call).next = pool.next + 1 := rfl
    rw [hfirst, ih, hnext, get_start_eq_ite]
    split_ifs <;> first | rfl | omega

theorem holds_of_not_any {p : α → Bool} (h : pool.any p = false) :
    Holds (fun call => p call = false) pool := by
  intro ticket call hget
  have hmem := FinMap.mem_values_of_lookup hget
  unfold any at h
  rw [List.any_eq_false] at h
  simpa using h call hmem

theorem any_eq_true_iff {p : α → Bool} :
    pool.any p = true ↔ ∃ ticket call, pool.get ticket = some call ∧ p call = true := by
  unfold any
  rw [List.any_eq_true]
  constructor
  · rintro ⟨call, hmem, hp⟩
    obtain ⟨ticket, hget⟩ := FinMap.exists_lookup_of_mem_values hmem
    exact ⟨ticket, call, hget, hp⟩
  · rintro ⟨ticket, call, hget, hp⟩
    exact ⟨call, FinMap.mem_values_of_lookup hget, hp⟩

/-- Whether every call in flight satisfies `P` is decided by going through them. -/
instance decidableHolds [DecidablePred P] : Decidable (Holds P pool) :=
  decidable_of_iff (∀ call ∈ pool.calls.values, P call) <| by
    constructor
    · intro h ticket call hget
      exact h call (FinMap.mem_values_of_lookup hget)
    · intro h call hmem
      obtain ⟨ticket, hget⟩ := FinMap.exists_lookup_of_mem_values hmem
      exact h ticket call hget

theorem get_become_of_ne {other : ℕ} {old held : α} (hold : pool.get ticket = some old)
    (hget : pool.get other = some held) (hne : held ≠ old) (call : α) :
    (pool.become ticket call).get other = some held := by
  have hother : other ≠ ticket := by
    rintro rfl
    exact hne (Option.some.inj (hget.symm.trans hold))
  rw [get_become_eq_ite, if_neg hother]
  exact hget

theorem get_finish_of_ne {other : ℕ} {old held : α} (hold : pool.get ticket = some old)
    (hget : pool.get other = some held) (hne : held ≠ old) :
    (pool.finish ticket).get other = some held := by
  have hother : other ≠ ticket := by
    rintro rfl
    exact hne (Option.some.inj (hget.symm.trans hold))
  rw [get_finish_eq_ite, if_neg hother]
  exact hget

/-- The sum of a measure over the calls in flight. -/
def total (f : α → ℕ) (pool : Pool α) : ℕ :=
  pool.calls.total f

theorem Numbered.total_start (h : Numbered pool) (f : α → ℕ) (call : α) :
    (pool.start call).total f = f call + pool.total f :=
  FinMap.total_insert_of_lookup_none h.get_next

theorem total_become (f : α → ℕ) {moved : α} (hget : pool.get ticket = some call) :
    (pool.become ticket moved).total f + f call = f moved + pool.total f :=
  FinMap.total_insert_of_lookup hget

theorem total_finish (f : α → ℕ) (hget : pool.get ticket = some call) :
    (pool.finish ticket).total f + f call = pool.total f :=
  FinMap.total_erase hget

theorem total_map (f : α → ℕ) {g : α → α} (h : ∀ call, f (g call) = f call) :
    (pool.map g).total f = pool.total f := by
  show FinMap.total f (pool.calls.mapValues g) = _
  rw [FinMap.total_map_values]
  exact FinMap.total_congr fun call _ => h call

end Pool
