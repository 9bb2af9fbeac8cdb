import Mathlib.Data.List.Basic

/-!
# Segments of a list

A list cut after each element that ends a segment. The last segment is unended when the list stops
inside one. `segments_append_cons` peels the first segment off, `segments_of_unended` says that what
holds no end is one segment, and `flatten_segments` that nothing is lost.
-/

universe u

namespace Segments

variable {α : Type u}

/-- The segments of a list, each with the element that ends it. -/
def segments (ends : α → Bool) : List α → List (List α)
  | [] => []
  | x :: rest =>
    if ends x then [x] :: segments ends rest
    else
      match segments ends rest with
      | [] => [[x]]
      | first :: others => (x :: first) :: others

variable {ends : α → Bool}

@[simp] theorem segments_nil : segments ends [] = [] := rfl

theorem segments_cons_of_ends {x : α} (h : ends x = true) (rest : List α) :
    segments ends (x :: rest) = [x] :: segments ends rest :=
  if_pos h

theorem flatten_segments (ends : α → Bool) (items : List α) : (segments ends items).flatten = items := by
  induction items with
  | nil => rfl
  | cons x rest ih =>
    unfold segments
    split
    next => rw [List.flatten_cons, ih, List.singleton_append]
    next =>
      split
      next hnil =>
        rw [hnil, List.flatten_nil] at ih
        rw [← ih]
        rfl
      next first others hcons =>
        rw [hcons, List.flatten_cons] at ih
        rw [List.flatten_cons, List.cons_append, ih]

variable {items : List α}

theorem segments_of_unended (hne : items ≠ []) (h : ∀ x ∈ items, ends x = false) :
    segments ends items = [items] := by
  induction items with
  | nil => exact absurd rfl hne
  | cons x rest ih =>
    have hx := h x List.mem_cons_self
    unfold segments
    rw [if_neg (by rw [hx]; exact Bool.false_ne_true)]
    cases rest with
    | nil => rfl
    | cons y more =>
      rw [ih (List.cons_ne_nil y more) fun z hz => h z (List.mem_cons_of_mem x hz)]

theorem segments_append_cons (h : ∀ x ∈ items, ends x = false) {x : α}
    (hx : ends x = true) (rest : List α) :
    segments ends (items ++ x :: rest) = (items ++ [x]) :: segments ends rest := by
  induction items with
  | nil => exact segments_cons_of_ends hx rest
  | cons y more ih =>
    have hy := h y List.mem_cons_self
    rw [List.cons_append, segments, if_neg (by rw [hy]; exact Bool.false_ne_true),
      ih fun z hz => h z (List.mem_cons_of_mem y hz)]
    rfl

theorem segments_append_of_unended {rest first : List α} {others : List (List α)}
    (h : ∀ x ∈ items, ends x = false) (hrest : segments ends rest = first :: others) :
    segments ends (items ++ rest) = (items ++ first) :: others := by
  induction items with
  | nil => exact hrest
  | cons y more ih =>
    have hy := h y List.mem_cons_self
    rw [List.cons_append, segments, if_neg (by rw [hy]; exact Bool.false_ne_true),
      ih fun z hz => h z (List.mem_cons_of_mem y hz)]
    rfl

theorem exists_segments_of_ne_nil (h : items ≠ []) :
    ∃ first others, segments ends items = first :: others ∧ first ≠ [] := by
  cases items with
  | nil => exact absurd rfl h
  | cons x rest =>
    unfold segments
    split
    next => exact ⟨_, _, rfl, List.cons_ne_nil _ _⟩
    next =>
      split
      next => exact ⟨_, _, rfl, List.cons_ne_nil _ _⟩
      next => exact ⟨_, _, rfl, List.cons_ne_nil _ _⟩

theorem eq_nil_of_segments_eq_nil (h : segments ends items = []) : items = [] := by
  rw [← flatten_segments ends items, h]
  rfl

theorem prefix_head_segments {rest : List α} (h : ∀ x ∈ items, ends x = false)
    {first : List α} {others : List (List α)}
    (hsegments : segments ends (items ++ rest) = first :: others) : items <+: first := by
  cases rest with
  | nil =>
    rw [List.append_nil] at hsegments
    have hne : items ≠ [] := by
      rintro rfl
      cases hsegments
    cases (segments_of_unended hne h).symm.trans hsegments
    exact List.prefix_rfl
  | cons x more =>
    obtain ⟨head, tail, hhead, -⟩ : ∃ head tail, segments ends (x :: more) = head :: tail ∧ head ≠ [] :=
      exists_segments_of_ne_nil (List.cons_ne_nil x more)
    cases (segments_append_of_unended h hhead).symm.trans hsegments
    exact List.prefix_append _ _

/-! ## A list cut once -/

variable [DecidableEq α] {separator : α}

/-- The items before the first separator and those behind it. -/
def splitOnce (separator : α) : List α → Option (List α × List α)
  | [] => none
  | x :: rest =>
    if x = separator then some ([], rest)
    else (splitOnce separator rest).map fun parts => (x :: parts.1, parts.2)

theorem split_once_append {before : List α} (h : separator ∉ before) (after : List α) :
    splitOnce separator (before ++ separator :: after) = some (before, after) := by
  induction before with
  | nil => exact if_pos rfl
  | cons x rest ih =>
    have hx : x ≠ separator := fun heq => h (heq ▸ List.mem_cons_self)
    rw [List.cons_append, splitOnce, if_neg hx, ih fun hmem => h (List.mem_cons_of_mem x hmem)]
    rfl

theorem split_once_eq_none (h : separator ∉ items) :
    splitOnce separator items = none := by
  induction items with
  | nil => rfl
  | cons x rest ih =>
    have hx : x ≠ separator := fun heq => h (heq ▸ List.mem_cons_self)
    rw [splitOnce, if_neg hx, ih fun hmem => h (List.mem_cons_of_mem x hmem)]
    rfl

end Segments
