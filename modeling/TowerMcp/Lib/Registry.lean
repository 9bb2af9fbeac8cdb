import TowerMcp.Lib.FinMap

/-!
# Registries of keyed items

A registry holds items that carry their own key, each under that key. The invariant is part of the
type: an item cannot be registered under another key than its own.
-/

universe u v

/-- A registry: every item is held under its own key. -/
structure Registry {κ : Type u} [DecidableEq κ] (α : Type v) (key : α → κ) where
  items : FinMap κ α
  keyed : ∀ k a, items.lookup k = some a → key a = k

namespace Registry

variable {κ : Type u} [DecidableEq κ] {α : Type v} {key : α → κ}

/-- A registry with nothing in it. -/
def empty : Registry α key :=
  ⟨∅, fun k a h => by simp at h⟩

instance : EmptyCollection (Registry α key) := ⟨empty⟩

/-- Register an item, replacing any item with the same key. -/
def register (self : Registry α key) (item : α) : Registry α key :=
  ⟨self.items.insert (key item) item, fun k a h => by
    rw [FinMap.lookup_insert_eq_ite] at h
    split at h
    · rename_i hk
      rw [← Option.some.inj h, hk]
    · exact self.keyed k a h⟩

/-- Unregister the item with a key, if any. -/
def unregister (self : Registry α key) (k : κ) : Registry α key :=
  ⟨self.items.erase k, fun k' a h => by
    rw [FinMap.lookup_erase_eq_ite] at h
    split at h
    · exact absurd h (by simp)
    · exact self.keyed k' a h⟩

/-- Keep the items that satisfy `p`. -/
def retain (self : Registry α key) (p : α → Bool) : Registry α key :=
  ⟨FinMap.retain p self.items, fun k a h => by
    rw [FinMap.lookup_retain, Option.filter_eq_some_iff] at h
    exact self.keyed k a h.1⟩

/-- Replace every item by the given ones; of two items with one key the later is kept. -/
def replaceAll (items : List α) : Registry α key :=
  items.foldl register empty

/-- All items. -/
def list (self : Registry α key) : List α :=
  self.items.values

/-- The item with a key. -/
def get (self : Registry α key) (k : κ) : Option α :=
  self.items.lookup k

variable {self : Registry α key}

variable {k : κ} {a : α}

theorem key_of_get (h : self.get k = some a) : key a = k :=
  self.keyed k a h

theorem get_key_of_mem (h : a ∈ self.list) : self.get (key a) = some a := by
  obtain ⟨k, hk⟩ := FinMap.exists_lookup_of_mem_values h
  rw [self.keyed k a hk]
  exact hk

theorem mem_of_get (h : self.get k = some a) : a ∈ self.list :=
  FinMap.mem_values_of_lookup h

@[simp] theorem get_empty (k : κ) : (empty : Registry α key).get k = none := rfl

theorem get_register (self : Registry α key) (item : α) (k : κ) :
    (self.register item).get k = if k = key item then some item else self.get k :=
  FinMap.lookup_insert_eq_ite self.items (key item) k item

theorem get_unregister (self : Registry α key) (removed k : κ) :
    (self.unregister removed).get k = if k = removed then none else self.get k :=
  FinMap.lookup_erase_eq_ite self.items removed k

theorem get_retain (self : Registry α key) (p : α → Bool) (k : κ) :
    (self.retain p).get k = (self.get k).filter p :=
  FinMap.lookup_retain p self.items k

theorem lookup_foldl_list (self : Registry α key) {β : Type v}
    {step : FinMap κ β → α → FinMap κ β} (change : α → Option β → Option β)
    (htwice : ∀ item found, change item (change item found) = change item found)
    (hother : ∀ m item, key item ≠ k → (step m item).lookup k = m.lookup k)
    (hself : ∀ m item, key item = k → (step m item).lookup k = change item (m.lookup k))
    (m : FinMap κ β) :
    (self.list.foldl step m).lookup k =
      (self.get k).elim (m.lookup k) fun item => change item (m.lookup k) := by
  cases hget : self.get k with
  | none =>
    have hnone : ¬∃ item ∈ self.list, key item = k := by
      rintro ⟨item, hmem, hkey⟩
      have hfound := get_key_of_mem hmem
      rw [hkey, hget] at hfound
      cases hfound
    have hfold : (self.list.foldl step m).lookup k =
        if ∃ item ∈ self.list, key item = k then id (m.lookup k) else m.lookup k :=
      FinMap.lookup_foldl_eq_ite (fun _ => rfl) hother self.list
        (fun _ item hmem hkey => absurd ⟨item, hmem, hkey⟩ hnone) m
    rw [hfold, if_neg hnone, Option.elim_none]
  | some found =>
    have hsome : ∃ item ∈ self.list, key item = k := ⟨found, mem_of_get hget, key_of_get hget⟩
    have hsame : ∀ m, ∀ item ∈ self.list, key item = k →
        (step m item).lookup k = change found (m.lookup k) := by
      intro m item hmem hkey
      have hitem := get_key_of_mem hmem
      rw [hkey, hget] at hitem
      cases hitem
      exact hself m found hkey
    rw [FinMap.lookup_foldl_eq_ite (htwice found) hother self.list hsame m, if_pos hsome,
      Option.elim_some]

/-- Register items one after the other. -/
def registerAll (self : Registry α key) (items : List α) : Registry α key :=
  items.foldl register self

theorem get_register_all_of_not_mem (self : Registry α key) {items : List α}
    (h : ∀ item ∈ items, key item ≠ k) :
    (self.registerAll items).get k = self.get k := by
  induction items generalizing self with
  | nil => rfl
  | cons item rest ih =>
    have hrest := ih (self.register item) fun other hmem =>
      h other (List.mem_cons_of_mem item hmem)
    have hne : k ≠ key item := (h item List.mem_cons_self).symm
    show ((self.register item).registerAll rest).get k = _
    rw [hrest, get_register, if_neg hne]

theorem get_register_all_of_mem (self : Registry α key) {items : List α} {found : α}
    (hmem : found ∈ items) (hkey : key found = k)
    (halone : ∀ item ∈ items, key item = k → item = found) :
    (self.registerAll items).get k = some found := by
  induction items generalizing self with
  | nil => cases hmem
  | cons item rest ih =>
    show ((self.register item).registerAll rest).get k = _
    by_cases hlater : found ∈ rest
    · exact ih (self.register item) hlater fun other hother =>
        halone other (List.mem_cons_of_mem item hother)
    · obtain rfl : found = item := (List.mem_cons.1 hmem).resolve_right hlater
      have hothers : ∀ other ∈ rest, key other ≠ k := by
        rintro other hother hsame
        obtain rfl := halone other (List.mem_cons_of_mem found hother) hsame
        exact hlater hother
      rw [get_register_all_of_not_mem _ hothers, get_register, if_pos hkey.symm]

theorem get_register_all_list (self other : Registry α key) (k : κ) :
    (self.registerAll other.list).get k = (other.get k).or (self.get k) := by
  cases hget : other.get k with
  | none =>
    refine get_register_all_of_not_mem self fun item hmem hkey => ?_
    rw [← hkey, get_key_of_mem hmem] at hget
    cases hget
  | some found =>
    refine get_register_all_of_mem self (mem_of_get hget) (key_of_get hget)
      fun item hmem hkey => ?_
    have hitem := get_key_of_mem hmem
    rw [hkey, hget] at hitem
    exact (Option.some.inj hitem).symm

theorem nodup_keys (self : Registry α key) : (self.list.map key).Nodup := by
  have hkeys : self.list.map key = self.items.keys := by
    show (self.items.entries.map Sigma.snd).map key = self.items.entries.map Sigma.fst
    rw [List.map_map]
    refine List.map_congr_left fun entry hmem => ?_
    exact self.keyed entry.1 entry.2 (AList.mem_lookup_iff.2 hmem)
  rw [hkeys]
  exact self.items.keys_nodup

end Registry
