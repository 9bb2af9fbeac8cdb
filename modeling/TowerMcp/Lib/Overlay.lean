import TowerMcp.Lib.Registry

/-!
# One registry laid over another

An item of the `upper` registry takes the place of the item of the `lower` one with the same key.
`resolve` looks a key up that way. `listing` shows the items that pass a test, and merges after the
test: a lower item is left out only when an upper item with its key was shown. The two disagree
exactly at the keys where a hidden upper item lies over a shown lower one, `Shadowed`, which is what
`listing_agrees_iff` says. `precedenceListing` merges before the test, so that a hidden upper item
keeps its place.
-/

universe u v w

namespace Overlay

variable {κ : Type u} {α : Type v} {δ : Type w}

/-- The definitions of the shown items, in the order of their keys. A lower item is left out when an
upper item with its key is shown. -/
def listing [LinearOrder κ] (key : α → κ) (definitionKey : δ → κ) (shown : α → Bool)
    (definition : α → δ) (upper lower : List α) : List δ :=
  let listed := (upper.filter shown).map definition
  let keys := listed.map definitionKey
  let merged := listed ++
    (lower.filter fun a => !keys.contains (key a) && shown a).map definition
  merged.insertionSort fun d e => definitionKey d ≤ definitionKey e

/-- The same with a lower item left out when any upper item has its key, shown or not. -/
def precedenceListing [LinearOrder κ] (key : α → κ) (definitionKey : δ → κ) (shown : α → Bool)
    (definition : α → δ) (upper lower : List α) : List δ :=
  let keys := upper.map key
  let merged := (upper.filter shown).map definition ++
    (lower.filter fun a => !keys.contains (key a) && shown a).map definition
  merged.insertionSort fun d e => definitionKey d ≤ definitionKey e

section Membership

variable [LinearOrder κ] {key : α → κ} {definitionKey : δ → κ} {shown : α → Bool}
  {definition : α → δ}

theorem mem_listing_iff (hkey : ∀ a, definitionKey (definition a) = key a) {upper lower : List α}
    {d : δ} :
    d ∈ listing key definitionKey shown definition upper lower ↔
      (∃ a ∈ upper, shown a = true ∧ definition a = d) ∨
      ∃ b ∈ lower, shown b = true ∧ definition b = d ∧
        ∀ a ∈ upper, shown a = true → key a ≠ key b := by
  simp only [listing, List.mem_insertionSort, List.mem_append, List.mem_map, List.mem_filter,
    Bool.and_eq_true, Bool.not_eq_true', List.contains_eq_mem, decide_eq_false_iff_not]
  constructor
  · rintro (⟨a, ⟨ha, hshown⟩, rfl⟩ | ⟨b, ⟨hb, hfree, hshown⟩, rfl⟩)
    · exact Or.inl ⟨a, ha, hshown, rfl⟩
    · refine Or.inr ⟨b, hb, hshown, rfl, ?_⟩
      intro a ha hshowna heq
      exact hfree ⟨definition a, ⟨a, ⟨ha, hshowna⟩, rfl⟩, (hkey a).trans heq⟩
  · rintro (⟨a, ha, hshown, rfl⟩ | ⟨b, hb, hshown, rfl, hfree⟩)
    · exact Or.inl ⟨a, ⟨ha, hshown⟩, rfl⟩
    · refine Or.inr ⟨b, ⟨hb, ?_, hshown⟩, rfl⟩
      rintro ⟨_, ⟨a, ⟨ha, hshowna⟩, rfl⟩, heq⟩
      exact hfree a ha hshowna ((hkey a).symm.trans heq)

end Membership

section Agreement

/-- The item under a key: the upper one when there is one. -/
def resolve [DecidableEq κ] {key : α → κ} (upper lower : Registry α key) (k : κ) : Option α :=
  (upper.get k).or (lower.get k)

/-- A hidden upper item lies over a shown lower item. -/
def Shadowed [DecidableEq κ] {key : α → κ} (shown : α → Bool) (upper lower : Registry α key)
    (k : κ) : Prop :=
  ∃ a b, upper.get k = some a ∧ shown a = false ∧ lower.get k = some b ∧ shown b = true

/-- A list of definitions shows exactly what the keys resolve to, where that is shown. -/
def Agrees [DecidableEq κ] {key : α → κ} (definitionKey : δ → κ) (shown : α → Bool)
    (definition : α → δ) (upper lower : Registry α key) (listed : List δ) : Prop :=
  ∀ k d, (d ∈ listed ∧ definitionKey d = k) ↔
    ∃ a, resolve upper lower k = some a ∧ shown a = true ∧ definition a = d

theorem key_of_resolve [DecidableEq κ] {key : α → κ} {upper lower : Registry α key} {k : κ} {a : α}
    (h : resolve upper lower k = some a) : key a = k := by
  rcases Option.or_eq_some_iff.1 h with hupper | ⟨_, hlower⟩
  · exact Registry.key_of_get hupper
  · exact Registry.key_of_get hlower

variable [LinearOrder κ] {key : α → κ} {definitionKey : δ → κ} {shown : α → Bool}
  {definition : α → δ} {upper lower : Registry α key}

theorem mem_listing_list_iff (hkey : ∀ a, definitionKey (definition a) = key a) {k : κ} {d : δ} :
    (d ∈ listing key definitionKey shown definition upper.list lower.list ∧
        definitionKey d = k) ↔
      (∃ a, upper.get k = some a ∧ shown a = true ∧ definition a = d) ∨
      ∃ b, lower.get k = some b ∧ shown b = true ∧ definition b = d ∧
        ∀ a, upper.get k = some a → shown a = false := by
  rw [mem_listing_iff hkey]
  constructor
  · rintro ⟨⟨a, ha, hshown, rfl⟩ | ⟨b, hb, hshown, rfl, hfree⟩, rfl⟩
    · rw [hkey]
      exact Or.inl ⟨a, Registry.get_key_of_mem ha, hshown, rfl⟩
    · rw [hkey]
      refine Or.inr ⟨b, Registry.get_key_of_mem hb, hshown, rfl, fun a ha => ?_⟩
      by_contra hshowna
      exact hfree a (Registry.mem_of_get ha) (by simpa using hshowna) (Registry.key_of_get ha)
  · rintro (⟨a, ha, hshown, rfl⟩ | ⟨b, hb, hshown, rfl, hfree⟩)
    · exact ⟨Or.inl ⟨a, Registry.mem_of_get ha, hshown, rfl⟩,
        (hkey a).trans (Registry.key_of_get ha)⟩
    · refine ⟨Or.inr ⟨b, Registry.mem_of_get hb, hshown, rfl, ?_⟩,
        (hkey b).trans (Registry.key_of_get hb)⟩
      intro a ha hshowna heq
      have hget : upper.get k = some a := by
        rw [← Registry.key_of_get hb, ← heq]
        exact Registry.get_key_of_mem ha
      rw [hfree a hget] at hshowna
      exact Bool.false_ne_true hshowna

theorem listing_agrees_iff (hkey : ∀ a, definitionKey (definition a) = key a) :
    Agrees definitionKey shown definition upper lower
        (listing key definitionKey shown definition upper.list lower.list) ↔
      ∀ k, ¬ Shadowed shown upper lower k := by
  unfold Agrees
  simp only [mem_listing_list_iff hkey]
  constructor
  · rintro hagrees k ⟨a, b, ha, hhidden, hb, hshown⟩
    have hlisted := (hagrees k (definition b)).1 (Or.inr ⟨b, hb, hshown, rfl, fun a' ha' => by
      rw [ha] at ha'
      exact Option.some.inj ha' ▸ hhidden⟩)
    obtain ⟨c, hc, hshownc, _⟩ := hlisted
    -- the key resolves to the hidden upper item, so nothing may be listed under it
    obtain rfl : a = c := by simpa [resolve, ha] using hc
    rw [hhidden] at hshownc
    exact Bool.false_ne_true hshownc
  · intro hclear k d
    constructor
    · rintro (⟨a, ha, hshown, hd⟩ | ⟨b, hb, hshown, hd, hfree⟩)
      · exact ⟨a, by simp [resolve, ha], hshown, hd⟩
      · cases ha : upper.get k with
        | none => exact ⟨b, by simp [resolve, ha, hb], hshown, hd⟩
        | some a => exact absurd ⟨a, b, ha, hfree a ha, hb, hshown⟩ (hclear k)
    · rintro ⟨a, ha, hshown, hd⟩
      cases hup : upper.get k with
      | none =>
        refine Or.inr ⟨a, ?_, hshown, hd, fun a' ha' => ?_⟩
        · simpa [resolve, hup] using ha
        · exact absurd ha' (by simp)
      | some a' =>
        obtain rfl : a' = a := by simpa [resolve, hup] using ha
        exact Or.inl ⟨a', rfl, hshown, hd⟩

end Agreement

end Overlay
