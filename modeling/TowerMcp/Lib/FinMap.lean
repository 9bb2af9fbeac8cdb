import Mathlib.Data.Finmap
import Mathlib.Data.List.Sort
import Mathlib.Data.String.Basic
import Mathlib.Algebra.BigOperators.Group.List.Basic
import Mathlib.Algebra.Order.BigOperators.Group.List
import Mathlib.Algebra.Order.Group.Nat
import Mathlib.Algebra.Order.Ring.Nat
import Mathlib.Tactic.Common

/-!
# Finite maps with a constant value type

`FinMap κ α` is Mathlib's `AList` at a constant family, with the operations an in-memory store
needs on top of `lookup`, `insert` and `erase`: mapping and filtering the values, the number of
entries, and `total f`, the sum of a measure over the values. The `total_*` lemmas say how each
operation moves that sum, which is what a store that keeps a running total has to follow.
-/

universe u v w

/-- A finite map from `κ` to `α` with one entry for each key. -/
abbrev FinMap (κ : Type u) (α : Type v) := AList fun _ : κ => α

namespace FinMap

variable {κ : Type u} {α : Type v} {β : Type w}

/-- The entries of a map as pairs, in the order the map holds them. -/
def toPairs (m : FinMap κ α) : List (κ × α) :=
  m.entries.map fun e => (e.1, e.2)

/-- The values of a map, one for each key. -/
def values (m : FinMap κ α) : List α :=
  m.entries.map (·.2)

/-- The entries of a map in the order of their keys. -/
def sortedPairs [LinearOrder κ] (m : FinMap κ α) : List (κ × α) :=
  m.toPairs.insertionSort fun a b => a.1 ≤ b.1

/-- The keys of a map in their order. -/
def sortedKeys [LinearOrder κ] (m : FinMap κ α) : List κ :=
  m.keys.insertionSort (· ≤ ·)

/-- The number of keys of a map. -/
def count (m : FinMap κ α) : ℕ :=
  m.entries.length

/-- The sum of the measure `f` over the values of a map. -/
def total (f : α → ℕ) (m : FinMap κ α) : ℕ :=
  (m.values.map f).sum

/-- Replace every value by its image. -/
def mapValues (f : α → β) (m : FinMap κ α) : FinMap κ β :=
  ⟨m.entries.map fun e => ⟨e.1, f e.2⟩, m.nodupKeys.map₂ fun _ => f⟩

/-- Keep the entries whose value satisfies `p`. -/
def retain (p : α → Bool) (m : FinMap κ α) : FinMap κ α :=
  ⟨m.entries.filter fun e => p e.2, m.nodupKeys.sublist List.filter_sublist⟩

/-- Keep the entries whose key satisfies `p`. -/
def filterKeys (p : κ → Bool) (m : FinMap κ α) : FinMap κ α :=
  ⟨m.entries.filter fun e => p e.1, m.nodupKeys.sublist List.filter_sublist⟩

/-- Change the value under a key, if there is one. -/
def modify [DecidableEq κ] (m : FinMap κ α) (k : κ) (f : α → α) : FinMap κ α :=
  match m.lookup k with
  | some a => m.insert k (f a)
  | none => m

@[simp] theorem total_empty (f : α → ℕ) : total f (∅ : FinMap κ α) = 0 := rfl

@[simp] theorem count_empty : count (∅ : FinMap κ α) = 0 := rfl

variable {m : FinMap κ α}

theorem is_empty_entries_iff : m.entries.isEmpty = true ↔ m = ∅ := by
  rw [List.isEmpty_iff]
  exact ⟨fun h => AList.ext h, fun h => congrArg AList.entries h⟩

/-- Whether a map is empty can be decided by its entries. -/
instance decidableEqEmpty (m : FinMap κ α) : Decidable (m = ∅) :=
  decidable_of_iff _ is_empty_entries_iff

@[simp] theorem is_empty_entries_map_values (g : α → β) (m : FinMap κ α) :
    (m.mapValues g).entries.isEmpty = m.entries.isEmpty := by
  simp [mapValues]

theorem map_values_eq_self {f : α → α} (h : ∀ a ∈ m.values, f a = a) :
    m.mapValues f = m := by
  apply AList.ext
  have hentries : ∀ e ∈ m.entries, (⟨e.1, f e.2⟩ : Sigma fun _ : κ => α) = e := by
    intro e hmem
    rw [h e.2 (List.mem_map_of_mem hmem)]
  exact (List.map_congr_left hentries).trans (List.map_id m.entries)

theorem retain_eq_self {p : α → Bool} (h : ∀ a ∈ m.values, p a = true) :
    m.retain p = m := by
  apply AList.ext
  exact List.filter_eq_self.2 fun e hmem => h e.2 (List.mem_map_of_mem hmem)

theorem total_map_values (f : β → ℕ) (g : α → β) (m : FinMap κ α) :
    total f (m.mapValues g) = total (f ∘ g) m := by
  simp [total, values, mapValues, Function.comp_def]

@[simp] theorem count_map_values (g : α → β) (m : FinMap κ α) :
    count (m.mapValues g) = count m := by
  simp [count, mapValues]

theorem count_retain_le (p : α → Bool) (m : FinMap κ α) : count (m.retain p) ≤ count m :=
  List.length_filter_le _ _

theorem total_retain (f : α → ℕ) (p : α → Bool) (m : FinMap κ α) :
    total f (m.retain p) = total (fun a => if p a then f a else 0) m := by
  obtain ⟨entries, nodup⟩ := m
  simp only [total, values, retain]
  clear nodup
  induction entries with
  | nil => rfl
  | cons e rest ih =>
    cases hp : p e.2 with
    | true => simp [hp, ih, -List.map_map]
    | false => simp [hp, ih, -List.map_map]

theorem total_le_total {f g : α → ℕ} (h : ∀ a ∈ m.values, f a ≤ g a) :
    total f m ≤ total g m :=
  List.sum_le_sum h

theorem total_congr {f g : α → ℕ} (h : ∀ a ∈ m.values, f a = g a) :
    total f m = total g m :=
  congrArg List.sum (List.map_congr_left h)

theorem total_add (f g : α → ℕ) (m : FinMap κ α) :
    total (fun a => f a + g a) m = total f m + total g m := by
  simp [total, List.sum_map_add]

theorem count_eq_total (m : FinMap κ α) : count m = total (fun _ => 1) m := by
  simp [count, total, values, Function.comp_def]

section Lookup

variable [DecidableEq κ]

variable {m : FinMap κ α}

theorem eq_empty_of_lookup_none (h : ∀ k, m.lookup k = none) : m = ∅ := by
  apply AList.ext
  rw [AList.empty_entries, List.eq_nil_iff_forall_not_mem]
  rintro ⟨k, a⟩ hmem
  have hlookup : m.lookup k = some a := AList.mem_lookup_iff.2 hmem
  rw [h k] at hlookup
  cases hlookup

variable {k : κ} {a : α}

theorem mem_values_of_lookup (h : m.lookup k = some a) :
    a ∈ m.values :=
  List.mem_map.2 ⟨⟨k, a⟩, AList.mem_lookup_iff.1 h, rfl⟩

theorem exists_lookup_of_mem_values (h : a ∈ m.values) :
    ∃ k, m.lookup k = some a := by
  obtain ⟨⟨k, b⟩, hmem, rfl⟩ := List.mem_map.1 h
  exact ⟨k, AList.mem_lookup_iff.2 hmem⟩

theorem mem_to_pairs_iff :
    (k, a) ∈ m.toPairs ↔ m.lookup k = some a := by
  simp only [toPairs, List.mem_map, Prod.mk.injEq]
  constructor
  · rintro ⟨⟨k', a'⟩, hmem, rfl, rfl⟩
    exact AList.mem_lookup_iff.2 hmem
  · intro h
    exact ⟨⟨k, a⟩, AList.mem_lookup_iff.1 h, rfl, rfl⟩

theorem mem_sorted_pairs_iff [LinearOrder κ] :
    (k, a) ∈ m.sortedPairs ↔ m.lookup k = some a := by
  unfold sortedPairs
  rw [List.mem_insertionSort]
  exact mem_to_pairs_iff

theorem mem_sorted_keys_iff [LinearOrder κ] :
    k ∈ m.sortedKeys ↔ k ∈ m := by
  unfold sortedKeys
  rw [List.mem_insertionSort]
  exact AList.mem_keys

theorem mem_iff_lookup : k ∈ m ↔ ∃ a, m.lookup k = some a := by
  rw [← AList.lookup_isSome, Option.isSome_iff_exists]

@[simp] theorem lookup_map_values (f : α → β) (m : FinMap κ α) (k : κ) :
    (m.mapValues f).lookup k = (m.lookup k).map f := by
  obtain ⟨entries, nodup⟩ := m
  exact List.dlookup_map₂ (f := fun _ => f) k

theorem lookup_retain (p : α → Bool) (m : FinMap κ α) (k : κ) :
    (m.retain p).lookup k = (m.lookup k).filter p := by
  apply Option.ext
  intro a
  have hright : (m.lookup k).filter p = some a ↔ m.lookup k = some a ∧ p a = true := by
    simp [Option.filter_eq_some_iff]
  have hleft : (m.retain p).lookup k = some a ↔ m.lookup k = some a ∧ p a = true := by
    rw [← Option.mem_def, AList.mem_lookup_iff, ← Option.mem_def, AList.mem_lookup_iff]
    exact List.mem_filter
  rw [hleft, hright]

theorem lookup_filter_keys (p : κ → Bool) (m : FinMap κ α) (k : κ) :
    (m.filterKeys p).lookup k = if p k then m.lookup k else none := by
  apply Option.ext
  intro a
  have hleft : (m.filterKeys p).lookup k = some a ↔ m.lookup k = some a ∧ p k = true := by
    rw [← Option.mem_def, AList.mem_lookup_iff, ← Option.mem_def, AList.mem_lookup_iff]
    exact List.mem_filter
  rw [hleft, Option.ite_none_right_eq_some, and_comm]

variable {f : α → ℕ}

theorem le_total_of_lookup
    (h : m.lookup k = some a) : f a ≤ total f m :=
  List.le_sum_of_mem (List.mem_map_of_mem (mem_values_of_lookup h))

theorem total_erase (h : m.lookup k = some a) :
    total f (m.erase k) + f a = total f m := by
  obtain ⟨entries, nodup⟩ := m
  simp only [AList.lookup] at h
  simp only [total, values, AList.erase]
  clear nodup
  induction entries with
  | nil => simp at h
  | cons e rest ih =>
    by_cases hk : k = e.1
    · obtain ⟨k', b⟩ := e
      obtain rfl : k = k' := hk
      rw [List.dlookup_cons_eq] at h
      obtain rfl := Option.some.inj h
      rw [List.kerase_cons_eq (s := (⟨k, b⟩ : Sigma fun _ => α)) rfl]
      simp [Nat.add_comm]
    · rw [List.dlookup_cons_ne rest e hk] at h
      have hrest := ih h
      rw [List.kerase_cons_ne hk]
      simp only [List.map_cons, List.sum_cons]
      omega

theorem erase_insert_of_lookup_none (h : m.lookup k = none) (a : α) :
    (m.insert k a).erase k = m := by
  have hself : m.erase k = m := AList.ext (List.kerase_of_notMem_keys (AList.lookup_eq_none.1 h))
  apply AList.ext
  show List.kerase k (m.insert k a).entries = m.entries
  rw [AList.entries_insert, List.kerase_cons_eq (s := (⟨k, a⟩ : Sigma fun _ : κ => α)) rfl]
  exact congrArg AList.entries hself

theorem erase_eq_self (h : m.lookup k = none) : m.erase k = m :=
  AList.ext (List.kerase_of_notMem_keys (AList.lookup_eq_none.1 h))

theorem total_insert (f : α → ℕ) (m : FinMap κ α) (k : κ) (a : α) :
    total f (m.insert k a) = f a + total f (m.erase k) := by
  simp [total, values, AList.insert, AList.erase, List.kinsert_def]

@[simp] theorem insert_erase (m : FinMap κ α) (k : κ) (a : α) :
    (m.erase k).insert k a = m.insert k a := by
  have hidem : (m.erase k).erase k = m.erase k := erase_eq_self (AList.lookup_erase k m)
  apply AList.ext
  rw [AList.entries_insert, AList.entries_insert]
  show _ :: ((m.erase k).erase k).entries = _ :: (m.erase k).entries
  rw [hidem]

theorem total_insert_of_lookup_none
    (h : m.lookup k = none) : total f (m.insert k a) = f a + total f m := by
  rw [total_insert, erase_eq_self h]

theorem total_insert_of_lookup {b : α}
    (h : m.lookup k = some b) : total f (m.insert k a) + f b = f a + total f m := by
  rw [total_insert, Nat.add_assoc, total_erase h]

theorem count_insert_of_lookup {b : α} (h : m.lookup k = some b) :
    count (m.insert k a) = count m := by
  have htotal := total_insert_of_lookup (f := fun _ => 1) (a := a) h
  simp only [count_eq_total]
  omega

theorem count_insert_of_lookup_none (h : m.lookup k = none) :
    count (m.insert k a) = count m + 1 := by
  rw [count_eq_total, count_eq_total, total_insert_of_lookup_none h, Nat.add_comm]

theorem count_erase_of_lookup (h : m.lookup k = some a) :
    count (m.erase k) + 1 = count m := by
  have htotal := total_erase (f := fun _ => 1) h
  simp only [count_eq_total]
  exact htotal

theorem lookup_of_count_eq_zero (h : count m = 0) (k : κ) :
    m.lookup k = none := by
  have hempty : m = ∅ := AList.ext (List.eq_nil_of_length_eq_zero h)
  rw [hempty]
  rfl

theorem count_erase_le (m : FinMap κ α) (k : κ) : count (m.erase k) ≤ count m :=
  (List.kerase_sublist k m.entries).length_le

theorem lookup_insert_eq_ite (m : FinMap κ α) (k k' : κ) (a : α) :
    (m.insert k a).lookup k' = if k' = k then some a else m.lookup k' := by
  by_cases h : k' = k
  · subst h
    rw [if_pos rfl, AList.lookup_insert]
  · rw [if_neg h, AList.lookup_insert_ne h]

theorem lookup_erase_eq_ite (m : FinMap κ α) (k k' : κ) :
    (m.erase k).lookup k' = if k' = k then none else m.lookup k' := by
  by_cases h : k' = k
  · subst h
    rw [if_pos rfl, AList.lookup_erase]
  · rw [if_neg h, AList.lookup_erase_ne h]

theorem lookup_modify_eq_ite (m : FinMap κ α) (k k' : κ) (f : α → α) :
    (m.modify k f).lookup k' = if k' = k then (m.lookup k).map f else m.lookup k' := by
  unfold modify
  cases hlookup : m.lookup k with
  | some a => rw [lookup_insert_eq_ite, Option.map_some]
  | none =>
    by_cases h : k' = k
    · rw [if_pos h, h, hlookup, Option.map_none]
    · rw [if_neg h]

theorem lookup_foldl_eq_ite {γ : Type*} {step : FinMap κ α → γ → FinMap κ α} {key : γ → κ}
    {change : Option α → Option α} (htwice : ∀ found, change (change found) = change found)
    (hother : ∀ m item, key item ≠ k → (step m item).lookup k = m.lookup k) (items : List γ)
    (hself : ∀ m, ∀ item ∈ items, key item = k → (step m item).lookup k = change (m.lookup k))
    (m : FinMap κ α) :
    (items.foldl step m).lookup k =
      if ∃ item ∈ items, key item = k then change (m.lookup k) else m.lookup k := by
  induction items generalizing m with
  | nil => simp
  | cons item rest ih =>
    have hrest := ih (fun m other hother => hself m other (List.mem_cons_of_mem item hother))
      (step m item)
    rw [List.foldl_cons, hrest]
    by_cases hkey : key item = k
    · rw [hself m item List.mem_cons_self hkey, htwice, ite_self]
      simp [hkey]
    · rw [hother m item hkey]
      simp [hkey]

end Lookup

end FinMap
